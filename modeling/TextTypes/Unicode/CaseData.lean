/-!
Case mappings of single characters, version 17.0 of the character database.

A run is written as four digits of six hexadecimal places: first character, last character,
step, and the image of the first; every `step`-th character of the run is moved by the same
distance. A character whose image has several characters stands in a list of its own, its
digit marked by the bit `0x800000` and followed by the image.
-/

namespace TextTypes.Unicode.CaseData

/-- Runs of the upper-case mapping. -/
def upperRuns : List Nat := [
  0x000061_00007A_000001_000041_0000B5_0000B5_000001_00039C_0000E0_0000F6_000001_0000C0,
  0x0000F8_0000FE_000001_0000D8_0000FF_0000FF_000001_000178_000101_00012F_000002_000100,
  0x000131_000131_000001_000049_000133_000137_000002_000132_00013A_000148_000002_000139,
  0x00014B_000177_000002_00014A_00017A_00017E_000002_000179_00017F_00017F_000001_000053,
  0x000180_000180_000001_000243_000183_000185_000002_000182_000188_000188_000001_000187,
  0x00018C_00018C_000001_00018B_000192_000192_000001_000191_000195_000195_000001_0001F6,
  0x000199_000199_000001_000198_00019A_00019A_000001_00023D_00019B_00019B_000001_00A7DC,
  0x00019E_00019E_000001_000220_0001A1_0001A5_000002_0001A0_0001A8_0001A8_000001_0001A7,
  0x0001AD_0001AD_000001_0001AC_0001B0_0001B0_000001_0001AF_0001B4_0001B6_000002_0001B3,
  0x0001B9_0001B9_000001_0001B8_0001BD_0001BD_000001_0001BC_0001BF_0001BF_000001_0001F7,
  0x0001C5_0001C5_000001_0001C4_0001C6_0001C6_000001_0001C4_0001C8_0001C8_000001_0001C7,
  0x0001C9_0001C9_000001_0001C7_0001CB_0001CB_000001_0001CA_0001CC_0001CC_000001_0001CA,
  0x0001CE_0001DC_000002_0001CD_0001DD_0001DD_000001_00018E_0001DF_0001EF_000002_0001DE,
  0x0001F2_0001F2_000001_0001F1_0001F3_0001F3_000001_0001F1_0001F5_0001F5_000001_0001F4,
  0x0001F9_00021F_000002_0001F8_000223_000233_000002_000222_00023C_00023C_000001_00023B,
  0x00023F_000240_000001_002C7E_000242_000242_000001_000241_000247_00024F_000002_000246,
  0x000250_000250_000001_002C6F_000251_000251_000001_002C6D_000252_000252_000001_002C70,
  0x000253_000253_000001_000181_000254_000254_000001_000186_000256_000257_000001_000189,
  0x000259_000259_000001_00018F_00025B_00025B_000001_000190_00025C_00025C_000001_00A7AB,
  0x000260_000260_000001_000193_000261_000261_000001_00A7AC_000263_000263_000001_000194,
  0x000264_000264_000001_00A7CB_000265_000265_000001_00A78D_000266_000266_000001_00A7AA,
  0x000268_000268_000001_000197_000269_000269_000001_000196_00026A_00026A_000001_00A7AE,
  0x00026B_00026B_000001_002C62_00026C_00026C_000001_00A7AD_00026F_00026F_000001_00019C,
  0x000271_000271_000001_002C6E_000272_000272_000001_00019D_000275_000275_000001_00019F,
  0x00027D_00027D_000001_002C64_000280_000280_000001_0001A6_000282_000282_000001_00A7C5,
  0x000283_000283_000001_0001A9_000287_000287_000001_00A7B1_000288_000288_000001_0001AE,
  0x000289_000289_000001_000244_00028A_00028B_000001_0001B1_00028C_00028C_000001_000245,
  0x000292_000292_000001_0001B7_00029D_00029D_000001_00A7B2_00029E_00029E_000001_00A7B0,
  0x000345_000345_000001_000399_000371_000373_000002_000370_000377_000377_000001_000376,
  0x00037B_00037D_000001_0003FD_0003AC_0003AC_000001_000386_0003AD_0003AF_000001_000388,
  0x0003B1_0003C1_000001_000391_0003C2_0003C2_000001_0003A3_0003C3_0003CB_000001_0003A3,
  0x0003CC_0003CC_000001_00038C_0003CD_0003CE_000001_00038E_0003D0_0003D0_000001_000392,
  0x0003D1_0003D1_000001_000398_0003D5_0003D5_000001_0003A6_0003D6_0003D6_000001_0003A0,
  0x0003D7_0003D7_000001_0003CF_0003D9_0003EF_000002_0003D8_0003F0_0003F0_000001_00039A,
  0x0003F1_0003F1_000001_0003A1_0003F2_0003F2_000001_0003F9_0003F3_0003F3_000001_00037F,
  0x0003F5_0003F5_000001_000395_0003F8_0003F8_000001_0003F7_0003FB_0003FB_000001_0003FA,
  0x000430_00044F_000001_000410_000450_00045F_000001_000400_000461_000481_000002_000460,
  0x00048B_0004BF_000002_00048A_0004C2_0004CE_000002_0004C1_0004CF_0004CF_000001_0004C0,
  0x0004D1_00052F_000002_0004D0_000561_000586_000001_000531_0010D0_0010FA_000001_001C90,
  0x0010FD_0010FF_000001_001CBD_0013F8_0013FD_000001_0013F0_001C80_001C80_000001_000412,
  0x001C81_001C81_000001_000414_001C82_001C82_000001_00041E_001C83_001C84_000001_000421,
  0x001C85_001C85_000001_000422_001C86_001C86_000001_00042A_001C87_001C87_000001_000462,
  0x001C88_001C88_000001_00A64A_001C8A_001C8A_000001_001C89_001D79_001D79_000001_00A77D,
  0x001D7D_001D7D_000001_002C63_001D8E_001D8E_000001_00A7C6_001E01_001E95_000002_001E00,
  0x001E9B_001E9B_000001_001E60_001EA1_001EFF_000002_001EA0_001F00_001F07_000001_001F08,
  0x001F10_001F15_000001_001F18_001F20_001F27_000001_001F28_001F30_001F37_000001_001F38,
  0x001F40_001F45_000001_001F48_001F51_001F57_000002_001F59_001F60_001F67_000001_001F68,
  0x001F70_001F71_000001_001FBA_001F72_001F75_000001_001FC8_001F76_001F77_000001_001FDA,
  0x001F78_001F79_000001_001FF8_001F7A_001F7B_000001_001FEA_001F7C_001F7D_000001_001FFA,
  0x001FB0_001FB1_000001_001FB8_001FBE_001FBE_000001_000399_001FD0_001FD1_000001_001FD8,
  0x001FE0_001FE1_000001_001FE8_001FE5_001FE5_000001_001FEC_00214E_00214E_000001_002132,
  0x002170_00217F_000001_002160_002184_002184_000001_002183_0024D0_0024E9_000001_0024B6,
  0x002C30_002C5F_000001_002C00_002C61_002C61_000001_002C60_002C65_002C65_000001_00023A,
  0x002C66_002C66_000001_00023E_002C68_002C6C_000002_002C67_002C73_002C73_000001_002C72,
  0x002C76_002C76_000001_002C75_002C81_002CE3_000002_002C80_002CEC_002CEE_000002_002CEB,
  0x002CF3_002CF3_000001_002CF2_002D00_002D25_000001_0010A0_002D27_002D27_000001_0010C7,
  0x002D2D_002D2D_000001_0010CD_00A641_00A66D_000002_00A640_00A681_00A69B_000002_00A680,
  0x00A723_00A72F_000002_00A722_00A733_00A76F_000002_00A732_00A77A_00A77C_000002_00A779,
  0x00A77F_00A787_000002_00A77E_00A78C_00A78C_000001_00A78B_00A791_00A793_000002_00A790,
  0x00A794_00A794_000001_00A7C4_00A797_00A7A9_000002_00A796_00A7B5_00A7C3_000002_00A7B4,
  0x00A7C8_00A7CA_000002_00A7C7_00A7CD_00A7DB_000002_00A7CC_00A7F6_00A7F6_000001_00A7F5,
  0x00AB53_00AB53_000001_00A7B3_00AB70_00ABBF_000001_0013A0_00FF41_00FF5A_000001_00FF21,
  0x010428_01044F_000001_010400_0104D8_0104FB_000001_0104B0_010597_0105BB_000002_010570,
  0x010598_0105A0_000002_010571_0105A4_0105B0_000002_01057D_0105B4_0105B8_000002_01058D,
  0x0105BC_0105BC_000001_010595_010CC0_010CF2_000001_010C80_010D70_010D85_000001_010D50,
  0x0118C0_0118DF_000001_0118A0_016E60_016E7F_000001_016E40_016EBB_016ED3_000001_016EA0,
  0x01E922_01E943_000001_01E900_000000_000000_000000_000000_000000_000000_000000_000000]

/-- Characters with an upper-case image of several characters. -/
def upperSpecial : List Nat := [
  0x8000DF_000053_000053_800149_0002BC_00004E_8001F0_00004A_00030C_800390_000399_000308,
  0x000301_8003B0_0003A5_000308_000301_800587_000535_000552_801E96_000048_000331_801E97,
  0x000054_000308_801E98_000057_00030A_801E99_000059_00030A_801E9A_000041_0002BE_801F50,
  0x0003A5_000313_801F52_0003A5_000313_000300_801F54_0003A5_000313_000301_801F56_0003A5,
  0x000313_000342_801F80_001F08_000399_801F81_001F09_000399_801F82_001F0A_000399_801F83,
  0x001F0B_000399_801F84_001F0C_000399_801F85_001F0D_000399_801F86_001F0E_000399_801F87,
  0x001F0F_000399_801F88_001F08_000399_801F89_001F09_000399_801F8A_001F0A_000399_801F8B,
  0x001F0B_000399_801F8C_001F0C_000399_801F8D_001F0D_000399_801F8E_001F0E_000399_801F8F,
  0x001F0F_000399_801F90_001F28_000399_801F91_001F29_000399_801F92_001F2A_000399_801F93,
  0x001F2B_000399_801F94_001F2C_000399_801F95_001F2D_000399_801F96_001F2E_000399_801F97,
  0x001F2F_000399_801F98_001F28_000399_801F99_001F29_000399_801F9A_001F2A_000399_801F9B,
  0x001F2B_000399_801F9C_001F2C_000399_801F9D_001F2D_000399_801F9E_001F2E_000399_801F9F,
  0x001F2F_000399_801FA0_001F68_000399_801FA1_001F69_000399_801FA2_001F6A_000399_801FA3,
  0x001F6B_000399_801FA4_001F6C_000399_801FA5_001F6D_000399_801FA6_001F6E_000399_801FA7,
  0x001F6F_000399_801FA8_001F68_000399_801FA9_001F69_000399_801FAA_001F6A_000399_801FAB,
  0x001F6B_000399_801FAC_001F6C_000399_801FAD_001F6D_000399_801FAE_001F6E_000399_801FAF,
  0x001F6F_000399_801FB2_001FBA_000399_801FB3_000391_000399_801FB4_000386_000399_801FB6,
  0x000391_000342_801FB7_000391_000342_000399_801FBC_000391_000399_801FC2_001FCA_000399,
  0x801FC3_000397_000399_801FC4_000389_000399_801FC6_000397_000342_801FC7_000397_000342,
  0x000399_801FCC_000397_000399_801FD2_000399_000308_000300_801FD3_000399_000308_000301,
  0x801FD6_000399_000342_801FD7_000399_000308_000342_801FE2_0003A5_000308_000300_801FE3,
  0x0003A5_000308_000301_801FE4_0003A1_000313_801FE6_0003A5_000342_801FE7_0003A5_000308,
  0x000342_801FF2_001FFA_000399_801FF3_0003A9_000399_801FF4_00038F_000399_801FF6_0003A9,
  0x000342_801FF7_0003A9_000342_000399_801FFC_0003A9_000399_80FB00_000046_000046_80FB01,
  0x000046_000049_80FB02_000046_00004C_80FB03_000046_000046_000049_80FB04_000046_000046,
  0x00004C_80FB05_000053_000054_80FB06_000053_000054_80FB13_000544_000546_80FB14_000544,
  0x000535_80FB15_000544_00053B_80FB16_00054E_000546_80FB17_000544_00053D_000000_000000]

/-- Runs of the lower-case mapping. -/
def lowerRuns : List Nat := [
  0x000041_00005A_000001_000061_0000C0_0000D6_000001_0000E0_0000D8_0000DE_000001_0000F8,
  0x000100_00012E_000002_000101_000132_000136_000002_000133_000139_000147_000002_00013A,
  0x00014A_000176_000002_00014B_000178_000178_000001_0000FF_000179_00017D_000002_00017A,
  0x000181_000181_000001_000253_000182_000184_000002_000183_000186_000186_000001_000254,
  0x000187_000187_000001_000188_000189_00018A_000001_000256_00018B_00018B_000001_00018C,
  0x00018E_00018E_000001_0001DD_00018F_00018F_000001_000259_000190_000190_000001_00025B,
  0x000191_000191_000001_000192_000193_000193_000001_000260_000194_000194_000001_000263,
  0x000196_000196_000001_000269_000197_000197_000001_000268_000198_000198_000001_000199,
  0x00019C_00019C_000001_00026F_00019D_00019D_000001_000272_00019F_00019F_000001_000275,
  0x0001A0_0001A4_000002_0001A1_0001A6_0001A6_000001_000280_0001A7_0001A7_000001_0001A8,
  0x0001A9_0001A9_000001_000283_0001AC_0001AC_000001_0001AD_0001AE_0001AE_000001_000288,
  0x0001AF_0001AF_000001_0001B0_0001B1_0001B2_000001_00028A_0001B3_0001B5_000002_0001B4,
  0x0001B7_0001B7_000001_000292_0001B8_0001B8_000001_0001B9_0001BC_0001BC_000001_0001BD,
  0x0001C4_0001C4_000001_0001C6_0001C5_0001C5_000001_0001C6_0001C7_0001C7_000001_0001C9,
  0x0001C8_0001C8_000001_0001C9_0001CA_0001CA_000001_0001CC_0001CB_0001DB_000002_0001CC,
  0x0001DE_0001EE_000002_0001DF_0001F1_0001F1_000001_0001F3_0001F2_0001F4_000002_0001F3,
  0x0001F6_0001F6_000001_000195_0001F7_0001F7_000001_0001BF_0001F8_00021E_000002_0001F9,
  0x000220_000220_000001_00019E_000222_000232_000002_000223_00023A_00023A_000001_002C65,
  0x00023B_00023B_000001_00023C_00023D_00023D_000001_00019A_00023E_00023E_000001_002C66,
  0x000241_000241_000001_000242_000243_000243_000001_000180_000244_000244_000001_000289,
  0x000245_000245_000001_00028C_000246_00024E_000002_000247_000370_000372_000002_000371,
  0x000376_000376_000001_000377_00037F_00037F_000001_0003F3_000386_000386_000001_0003AC,
  0x000388_00038A_000001_0003AD_00038C_00038C_000001_0003CC_00038E_00038F_000001_0003CD,
  0x000391_0003A1_000001_0003B1_0003A3_0003AB_000001_0003C3_0003CF_0003CF_000001_0003D7,
  0x0003D8_0003EE_000002_0003D9_0003F4_0003F4_000001_0003B8_0003F7_0003F7_000001_0003F8,
  0x0003F9_0003F9_000001_0003F2_0003FA_0003FA_000001_0003FB_0003FD_0003FF_000001_00037B,
  0x000400_00040F_000001_000450_000410_00042F_000001_000430_000460_000480_000002_000461,
  0x00048A_0004BE_000002_00048B_0004C0_0004C0_000001_0004CF_0004C1_0004CD_000002_0004C2,
  0x0004D0_00052E_000002_0004D1_000531_000556_000001_000561_0010A0_0010C5_000001_002D00,
  0x0010C7_0010C7_000001_002D27_0010CD_0010CD_000001_002D2D_0013A0_0013EF_000001_00AB70,
  0x0013F0_0013F5_000001_0013F8_001C89_001C89_000001_001C8A_001C90_001CBA_000001_0010D0,
  0x001CBD_001CBF_000001_0010FD_001E00_001E94_000002_001E01_001E9E_001E9E_000001_0000DF,
  0x001EA0_001EFE_000002_001EA1_001F08_001F0F_000001_001F00_001F18_001F1D_000001_001F10,
  0x001F28_001F2F_000001_001F20_001F38_001F3F_000001_001F30_001F48_001F4D_000001_001F40,
  0x001F59_001F5F_000002_001F51_001F68_001F6F_000001_001F60_001F88_001F8F_000001_001F80,
  0x001F98_001F9F_000001_001F90_001FA8_001FAF_000001_001FA0_001FB8_001FB9_000001_001FB0,
  0x001FBA_001FBB_000001_001F70_001FBC_001FBC_000001_001FB3_001FC8_001FCB_000001_001F72,
  0x001FCC_001FCC_000001_001FC3_001FD8_001FD9_000001_001FD0_001FDA_001FDB_000001_001F76,
  0x001FE8_001FE9_000001_001FE0_001FEA_001FEB_000001_001F7A_001FEC_001FEC_000001_001FE5,
  0x001FF8_001FF9_000001_001F78_001FFA_001FFB_000001_001F7C_001FFC_001FFC_000001_001FF3,
  0x002126_002126_000001_0003C9_00212A_00212A_000001_00006B_00212B_00212B_000001_0000E5,
  0x002132_002132_000001_00214E_002160_00216F_000001_002170_002183_002183_000001_002184,
  0x0024B6_0024CF_000001_0024D0_002C00_002C2F_000001_002C30_002C60_002C60_000001_002C61,
  0x002C62_002C62_000001_00026B_002C63_002C63_000001_001D7D_002C64_002C64_000001_00027D,
  0x002C67_002C6B_000002_002C68_002C6D_002C6D_000001_000251_002C6E_002C6E_000001_000271,
  0x002C6F_002C6F_000001_000250_002C70_002C70_000001_000252_002C72_002C72_000001_002C73,
  0x002C75_002C75_000001_002C76_002C7E_002C7F_000001_00023F_002C80_002CE2_000002_002C81,
  0x002CEB_002CED_000002_002CEC_002CF2_002CF2_000001_002CF3_00A640_00A66C_000002_00A641,
  0x00A680_00A69A_000002_00A681_00A722_00A72E_000002_00A723_00A732_00A76E_000002_00A733,
  0x00A779_00A77B_000002_00A77A_00A77D_00A77D_000001_001D79_00A77E_00A786_000002_00A77F,
  0x00A78B_00A78B_000001_00A78C_00A78D_00A78D_000001_000265_00A790_00A792_000002_00A791,
  0x00A796_00A7A8_000002_00A797_00A7AA_00A7AA_000001_000266_00A7AB_00A7AB_000001_00025C,
  0x00A7AC_00A7AC_000001_000261_00A7AD_00A7AD_000001_00026C_00A7AE_00A7AE_000001_00026A,
  0x00A7B0_00A7B0_000001_00029E_00A7B1_00A7B1_000001_000287_00A7B2_00A7B2_000001_00029D,
  0x00A7B3_00A7B3_000001_00AB53_00A7B4_00A7C2_000002_00A7B5_00A7C4_00A7C4_000001_00A794,
  0x00A7C5_00A7C5_000001_000282_00A7C6_00A7C6_000001_001D8E_00A7C7_00A7C9_000002_00A7C8,
  0x00A7CB_00A7CB_000001_000264_00A7CC_00A7DA_000002_00A7CD_00A7DC_00A7DC_000001_00019B,
  0x00A7F5_00A7F5_000001_00A7F6_00FF21_00FF3A_000001_00FF41_010400_010427_000001_010428,
  0x0104B0_0104D3_000001_0104D8_010570_010594_000002_010597_010571_010579_000002_010598,
  0x01057D_010589_000002_0105A4_01058D_010591_000002_0105B4_010595_010595_000001_0105BC,
  0x010C80_010CB2_000001_010CC0_010D50_010D65_000001_010D70_0118A0_0118BF_000001_0118C0,
  0x016E40_016E5F_000001_016E60_016EA0_016EB8_000001_016EBB_01E900_01E921_000001_01E922]

/-- Characters with a lower-case image of several characters. -/
def lowerSpecial : List Nat := [
  0x800130_000069_000307_000000_000000_000000_000000_000000_000000_000000_000000_000000]

end TextTypes.Unicode.CaseData
