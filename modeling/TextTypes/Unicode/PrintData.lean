/-!
Ranges of characters that matter when text is shown.

A range is two digits of six hexadecimal places, first and last character.
-/

namespace TextTypes.Unicode.PrintData

/-- Characters that extend a grapheme, version 17.0 of the character database. -/
def extenders : List Nat := [
  0x000300_00036F_000483_000489_000591_0005BD_0005BF_0005BF_0005C1_0005C2_0005C4_0005C5,
  0x0005C7_0005C7_000610_00061A_00064B_00065F_000670_000670_0006D6_0006DC_0006DF_0006E4,
  0x0006E7_0006E8_0006EA_0006ED_000711_000711_000730_00074A_0007A6_0007B0_0007EB_0007F3,
  0x0007FD_0007FD_000816_000819_00081B_000823_000825_000827_000829_00082D_000859_00085B,
  0x000897_00089F_0008CA_0008E1_0008E3_000902_00093A_00093A_00093C_00093C_000941_000948,
  0x00094D_00094D_000951_000957_000962_000963_000981_000981_0009BC_0009BC_0009BE_0009BE,
  0x0009C1_0009C4_0009CD_0009CD_0009D7_0009D7_0009E2_0009E3_0009FE_0009FE_000A01_000A02,
  0x000A3C_000A3C_000A41_000A42_000A47_000A48_000A4B_000A4D_000A51_000A51_000A70_000A71,
  0x000A75_000A75_000A81_000A82_000ABC_000ABC_000AC1_000AC5_000AC7_000AC8_000ACD_000ACD,
  0x000AE2_000AE3_000AFA_000AFF_000B01_000B01_000B3C_000B3C_000B3E_000B3F_000B41_000B44,
  0x000B4D_000B4D_000B55_000B57_000B62_000B63_000B82_000B82_000BBE_000BBE_000BC0_000BC0,
  0x000BCD_000BCD_000BD7_000BD7_000C00_000C00_000C04_000C04_000C3C_000C3C_000C3E_000C40,
  0x000C46_000C48_000C4A_000C4D_000C55_000C56_000C62_000C63_000C81_000C81_000CBC_000CBC,
  0x000CBF_000CC0_000CC2_000CC2_000CC6_000CC8_000CCA_000CCD_000CD5_000CD6_000CE2_000CE3,
  0x000D00_000D01_000D3B_000D3C_000D3E_000D3E_000D41_000D44_000D4D_000D4D_000D57_000D57,
  0x000D62_000D63_000D81_000D81_000DCA_000DCA_000DCF_000DCF_000DD2_000DD4_000DD6_000DD6,
  0x000DDF_000DDF_000E31_000E31_000E34_000E3A_000E47_000E4E_000EB1_000EB1_000EB4_000EBC,
  0x000EC8_000ECE_000F18_000F19_000F35_000F35_000F37_000F37_000F39_000F39_000F71_000F7E,
  0x000F80_000F84_000F86_000F87_000F8D_000F97_000F99_000FBC_000FC6_000FC6_00102D_001030,
  0x001032_001037_001039_00103A_00103D_00103E_001058_001059_00105E_001060_001071_001074,
  0x001082_001082_001085_001086_00108D_00108D_00109D_00109D_00135D_00135F_001712_001715,
  0x001732_001734_001752_001753_001772_001773_0017B4_0017B5_0017B7_0017BD_0017C6_0017C6,
  0x0017C9_0017D3_0017DD_0017DD_00180B_00180D_00180F_00180F_001885_001886_0018A9_0018A9,
  0x001920_001922_001927_001928_001932_001932_001939_00193B_001A17_001A18_001A1B_001A1B,
  0x001A56_001A56_001A58_001A5E_001A60_001A60_001A62_001A62_001A65_001A6C_001A73_001A7C,
  0x001A7F_001A7F_001AB0_001ADD_001AE0_001AEB_001B00_001B03_001B34_001B3D_001B42_001B44,
  0x001B6B_001B73_001B80_001B81_001BA2_001BA5_001BA8_001BAD_001BE6_001BE6_001BE8_001BE9,
  0x001BED_001BED_001BEF_001BF3_001C2C_001C33_001C36_001C37_001CD0_001CD2_001CD4_001CE0,
  0x001CE2_001CE8_001CED_001CED_001CF4_001CF4_001CF8_001CF9_001DC0_001DFF_00200C_00200C,
  0x0020D0_0020F0_002CEF_002CF1_002D7F_002D7F_002DE0_002DFF_00302A_00302F_003099_00309A,
  0x00A66F_00A672_00A674_00A67D_00A69E_00A69F_00A6F0_00A6F1_00A802_00A802_00A806_00A806,
  0x00A80B_00A80B_00A825_00A826_00A82C_00A82C_00A8C4_00A8C5_00A8E0_00A8F1_00A8FF_00A8FF,
  0x00A926_00A92D_00A947_00A951_00A953_00A953_00A980_00A982_00A9B3_00A9B3_00A9B6_00A9B9,
  0x00A9BC_00A9BD_00A9C0_00A9C0_00A9E5_00A9E5_00AA29_00AA2E_00AA31_00AA32_00AA35_00AA36,
  0x00AA43_00AA43_00AA4C_00AA4C_00AA7C_00AA7C_00AAB0_00AAB0_00AAB2_00AAB4_00AAB7_00AAB8,
  0x00AABE_00AABF_00AAC1_00AAC1_00AAEC_00AAED_00AAF6_00AAF6_00ABE5_00ABE5_00ABE8_00ABE8,
  0x00ABED_00ABED_00FB1E_00FB1E_00FE00_00FE0F_00FE20_00FE2F_00FF9E_00FF9F_0101FD_0101FD,
  0x0102E0_0102E0_010376_01037A_010A01_010A03_010A05_010A06_010A0C_010A0F_010A38_010A3A,
  0x010A3F_010A3F_010AE5_010AE6_010D24_010D27_010D69_010D6D_010EAB_010EAC_010EFA_010EFF,
  0x010F46_010F50_010F82_010F85_011001_011001_011038_011046_011070_011070_011073_011074,
  0x01107F_011081_0110B3_0110B6_0110B9_0110BA_0110C2_0110C2_011100_011102_011127_01112B,
  0x01112D_011134_011173_011173_011180_011181_0111B6_0111BE_0111C0_0111C0_0111C9_0111CC,
  0x0111CF_0111CF_01122F_011231_011234_011237_01123E_01123E_011241_011241_0112DF_0112DF,
  0x0112E3_0112EA_011300_011301_01133B_01133C_01133E_01133E_011340_011340_01134D_01134D,
  0x011357_011357_011366_01136C_011370_011374_0113B8_0113B8_0113BB_0113C0_0113C2_0113C2,
  0x0113C5_0113C5_0113C7_0113C9_0113CE_0113D0_0113D2_0113D2_0113E1_0113E2_011438_01143F,
  0x011442_011444_011446_011446_01145E_01145E_0114B0_0114B0_0114B3_0114B8_0114BA_0114BA,
  0x0114BD_0114BD_0114BF_0114C0_0114C2_0114C3_0115AF_0115AF_0115B2_0115B5_0115BC_0115BD,
  0x0115BF_0115C0_0115DC_0115DD_011633_01163A_01163D_01163D_01163F_011640_0116AB_0116AB,
  0x0116AD_0116AD_0116B0_0116B7_01171D_01171D_01171F_01171F_011722_011725_011727_01172B,
  0x01182F_011837_011839_01183A_011930_011930_01193B_01193E_011943_011943_0119D4_0119D7,
  0x0119DA_0119DB_0119E0_0119E0_011A01_011A0A_011A33_011A38_011A3B_011A3E_011A47_011A47,
  0x011A51_011A56_011A59_011A5B_011A8A_011A96_011A98_011A99_011B60_011B60_011B62_011B64,
  0x011B66_011B66_011C30_011C36_011C38_011C3D_011C3F_011C3F_011C92_011CA7_011CAA_011CB0,
  0x011CB2_011CB3_011CB5_011CB6_011D31_011D36_011D3A_011D3A_011D3C_011D3D_011D3F_011D45,
  0x011D47_011D47_011D90_011D91_011D95_011D95_011D97_011D97_011EF3_011EF4_011F00_011F01,
  0x011F36_011F3A_011F40_011F42_011F5A_011F5A_013440_013440_013447_013455_01611E_016129,
  0x01612D_01612F_016AF0_016AF4_016B30_016B36_016F4F_016F4F_016F8F_016F92_016FE4_016FE4,
  0x016FF0_016FF1_01BC9D_01BC9E_01CF00_01CF2D_01CF30_01CF46_01D165_01D169_01D16D_01D172,
  0x01D17B_01D182_01D185_01D18B_01D1AA_01D1AD_01D242_01D244_01DA00_01DA36_01DA3B_01DA6C,
  0x01DA75_01DA75_01DA84_01DA84_01DA9B_01DA9F_01DAA1_01DAAF_01E000_01E006_01E008_01E018,
  0x01E01B_01E021_01E023_01E024_01E026_01E02A_01E08F_01E08F_01E130_01E136_01E2AE_01E2AE,
  0x01E2EC_01E2EF_01E4EC_01E4EF_01E5EE_01E5EF_01E6E3_01E6E3_01E6E6_01E6E6_01E6EE_01E6EF,
  0x01E6F5_01E6F5_01E8D0_01E8D6_01E944_01E94A_0E0020_0E007F_0E0100_0E01EF_000000_000000]

/-- Characters assigned in version 17.0, all of them visible. -/
def recent : List Nat := [
  0x00088F_00088F_000C5C_000C5C_000CDC_000CDC_001ACF_001ADD_001AE0_001AEB_0020C1_0020C1,
  0x002B96_002B96_00A7CE_00A7CF_00A7D2_00A7D2_00A7D4_00A7D4_00A7F1_00A7F1_00FBC3_00FBD2,
  0x00FD90_00FD91_00FDC8_00FDCE_010940_010959_010EC5_010EC7_010ED0_010ED8_010EFA_010EFB,
  0x011B60_011B67_011DB0_011DDB_011DE0_011DE9_016EA0_016EB8_016EBB_016ED3_016FF2_016FF6,
  0x0187F8_0187FF_018D09_018D1E_018D80_018DF2_01CCFA_01CCFC_01CEBA_01CED0_01CEE0_01CEF0,
  0x01E6C0_01E6DE_01E6E0_01E6F5_01E6FE_01E6FF_01F6D8_01F6D8_01F777_01F77A_01F8D0_01F8D8,
  0x01FA54_01FA57_01FA8A_01FA8A_01FA8E_01FA8E_01FAC8_01FAC8_01FACD_01FACD_01FAEA_01FAEA,
  0x01FAEF_01FAEF_01FBFA_01FBFA_02B73A_02B73F_02CEA2_02CEAD_0323B0_033479_000000_000000]

end TextTypes.Unicode.PrintData
