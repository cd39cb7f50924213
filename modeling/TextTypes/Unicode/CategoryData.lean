/-!
General categories of all code points, version 16.0 of the character database.

The code space is cut into runs of one category. An entry is the first code point of a run
times 32 plus the ordinal of its category; a run ends where the next one begins.
-/

namespace TextTypes.Unicode.CategoryData

/-- Ten entries a row, seven hexadecimal digits an entry. -/
def rows : List Nat := [
  0x0000019_0000416_0000431_0000493_00004B1_000050D_000052E_0000551_0000572_0000591,
  0x00005AC_00005D1_0000608_0000751_0000792_00007F1_0000820_0000B6D_0000B91_0000BAE,
  0x0000BD4_0000BEB_0000C14_0000C21_0000F6D_0000F92_0000FAE_0000FD2_0000FF9_0001416,
  0x0001431_0001453_00014D5_00014F1_0001514_0001535_0001544_000156F_0001592_00015BA,
  0x00015D5_00015F4_0001615_0001632_000164A_0001694_00016A1_00016D1_0001714_000172A,
  0x0001744_0001770_000178A_00017F1_0001800_0001AF2_0001B00_0001BE1_0001EF2_0001F01,
  0x0002000_0002021_0002040_0002061_0002080_00020A1_00020C0_00020E1_0002100_0002121,
  0x0002140_0002161_0002180_00021A1_00021C0_00021E1_0002200_0002221_0002240_0002261,
  0x0002280_00022A1_00022C0_00022E1_0002300_0002321_0002340_0002361_0002380_00023A1,
  0x00023C0_00023E1_0002400_0002421_0002440_0002461_0002480_00024A1_00024C0_00024E1,
  0x0002500_0002521_0002540_0002561_0002580_00025A1_00025C0_00025E1_0002600_0002621,
  0x0002640_0002661_0002680_00026A1_00026C0_00026E1_0002720_0002741_0002760_0002781,
  0x00027A0_00027C1_00027E0_0002801_0002820_0002841_0002860_0002881_00028A0_00028C1,
  0x00028E0_0002901_0002940_0002961_0002980_00029A1_00029C0_00029E1_0002A00_0002A21,
  0x0002A40_0002A61_0002A80_0002AA1_0002AC0_0002AE1_0002B00_0002B21_0002B40_0002B61,
  0x0002B80_0002BA1_0002BC0_0002BE1_0002C00_0002C21_0002C40_0002C61_0002C80_0002CA1,
  0x0002CC0_0002CE1_0002D00_0002D21_0002D40_0002D61_0002D80_0002DA1_0002DC0_0002DE1,
  0x0002E00_0002E21_0002E40_0002E61_0002E80_0002EA1_0002EC0_0002EE1_0002F00_0002F41,
  0x0002F60_0002F81_0002FA0_0002FC1_0003020_0003061_0003080_00030A1_00030C0_0003101,
  0x0003120_0003181_00031C0_0003241_0003260_00032A1_00032C0_0003321_0003380_00033C1,
  0x00033E0_0003421_0003440_0003461_0003480_00034A1_00034C0_0003501_0003520_0003541,
  0x0003580_00035A1_00035C0_0003601_0003620_0003681_00036A0_00036C1_00036E0_0003721,
  0x0003764_0003780_00037A1_0003804_0003880_00038A2_00038C1_00038E0_0003902_0003921,
  0x0003940_0003962_0003981_00039A0_00039C1_00039E0_0003A01_0003A20_0003A41_0003A60,
  0x0003A81_0003AA0_0003AC1_0003AE0_0003B01_0003B20_0003B41_0003B60_0003B81_0003BC0,
  0x0003BE1_0003C00_0003C21_0003C40_0003C61_0003C80_0003CA1_0003CC0_0003CE1_0003D00,
  0x0003D21_0003D40_0003D61_0003D80_0003DA1_0003DC0_0003DE1_0003E20_0003E42_0003E61,
  0x0003E80_0003EA1_0003EC0_0003F21_0003F40_0003F61_0003F80_0003FA1_0003FC0_0003FE1,
  0x0004000_0004021_0004040_0004061_0004080_00040A1_00040C0_00040E1_0004100_0004121,
  0x0004140_0004161_0004180_00041A1_00041C0_00041E1_0004200_0004221_0004240_0004261,
  0x0004280_00042A1_00042C0_00042E1_0004300_0004321_0004340_0004361_0004380_00043A1,
  0x00043C0_00043E1_0004400_0004421_0004440_0004461_0004480_00044A1_00044C0_00044E1,
  0x0004500_0004521_0004540_0004561_0004580_00045A1_00045C0_00045E1_0004600_0004621,
  0x0004640_0004661_0004740_0004781_00047A0_00047E1_0004820_0004841_0004860_00048E1,
  0x0004900_0004921_0004940_0004961_0004980_00049A1_00049C0_00049E1_0005284_00052A1,
  0x0005603_0005854_00058C3_0005A54_0005C03_0005CB4_0005D83_0005DB4_0005DC3_0005DF4,
  0x0006005_0006E00_0006E21_0006E40_0006E61_0006E83_0006EB4_0006EC0_0006EE1_0006F1D,
  0x0006F43_0006F61_0006FD1_0006FE0_000701D_0007094_00070C0_00070F1_0007100_000717D,
  0x0007180_00071BD_00071C0_0007201_0007220_000745D_0007460_0007581_00079E0_0007A01,
  0x0007A40_0007AA1_0007B00_0007B21_0007B40_0007B61_0007B80_0007BA1_0007BC0_0007BE1,
  0x0007C00_0007C21_0007C40_0007C61_0007C80_0007CA1_0007CC0_0007CE1_0007D00_0007D21,
  0x0007D40_0007D61_0007D80_0007DA1_0007DC0_0007DE1_0007E80_0007EA1_0007ED2_0007EE0,
  0x0007F01_0007F20_0007F61_0007FA0_0008601_0008C00_0008C21_0008C40_0008C61_0008C80,
  0x0008CA1_0008CC0_0008CE1_0008D00_0008D21_0008D40_0008D61_0008D80_0008DA1_0008DC0,
  0x0008DE1_0008E00_0008E21_0008E40_0008E61_0008E80_0008EA1_0008EC0_0008EE1_0008F00,
  0x0008F21_0008F40_0008F61_0008F80_0008FA1_0008FC0_0008FE1_0009000_0009021_0009055,
  0x0009065_0009107_0009140_0009161_0009180_00091A1_00091C0_00091E1_0009200_0009221,
  0x0009240_0009261_0009280_00092A1_00092C0_00092E1_0009300_0009321_0009340_0009361,
  0x0009380_00093A1_00093C0_00093E1_0009400_0009421_0009440_0009461_0009480_00094A1,
  0x00094C0_00094E1_0009500_0009521_0009540_0009561_0009580_00095A1_00095C0_00095E1,
  0x0009600_0009621_0009640_0009661_0009680_00096A1_00096C0_00096E1_0009700_0009721,
  0x0009740_0009761_0009780_00097A1_00097C0_00097E1_0009800_0009841_0009860_0009881,
  0x00098A0_00098C1_00098E0_0009901_0009920_0009941_0009960_0009981_00099A0_00099C1,
  0x0009A00_0009A21_0009A40_0009A61_0009A80_0009AA1_0009AC0_0009AE1_0009B00_0009B21,
  0x0009B40_0009B61_0009B80_0009BA1_0009BC0_0009BE1_0009C00_0009C21_0009C40_0009C61,
  0x0009C80_0009CA1_0009CC0_0009CE1_0009D00_0009D21_0009D40_0009D61_0009D80_0009DA1,
  0x0009DC0_0009DE1_0009E00_0009E21_0009E40_0009E61_0009E80_0009EA1_0009EC0_0009EE1,
  0x0009F00_0009F21_0009F40_0009F61_0009F80_0009FA1_0009FC0_0009FE1_000A000_000A021,
  0x000A040_000A061_000A080_000A0A1_000A0C0_000A0E1_000A100_000A121_000A140_000A161,
  0x000A180_000A1A1_000A1C0_000A1E1_000A200_000A221_000A240_000A261_000A280_000A2A1,
  0x000A2C0_000A2E1_000A300_000A321_000A340_000A361_000A380_000A3A1_000A3C0_000A3E1,
  0x000A400_000A421_000A440_000A461_000A480_000A4A1_000A4C0_000A4E1_000A500_000A521,
  0x000A540_000A561_000A580_000A5A1_000A5C0_000A5E1_000A61D_000A620_000AAFD_000AB23,
  0x000AB51_000AC01_000B131_000B14C_000B17D_000B1B5_000B1F3_000B21D_000B225_000B7CC,
  0x000B7E5_000B811_000B825_000B871_000B885_000B8D1_000B8E5_000B91D_000BA04_000BD7D,
  0x000BDE4_000BE71_000BEBD_000C01A_000C0D2_000C131_000C173_000C191_000C1D5_000C205,
  0x000C371_000C39A_000C3B1_000C404_000C803_000C824_000C965_000CC08_000CD51_000CDC4,
  0x000CE05_000CE24_000DA91_000DAA4_000DAC5_000DBBA_000DBD5_000DBE5_000DCA3_000DCE5,
  0x000DD35_000DD45_000DDC4_000DE08_000DF44_000DFB5_000DFE4_000E011_000E1DD_000E1FA,
  0x000E204_000E225_000E244_000E605_000E97D_000E9A4_000F4C5_000F624_000F65D_000F808,
  0x000F944_000FD65_000FE83_000FED5_000FEF1_000FF43_000FF7D_000FFA5_000FFD3_0010004,
  0x00102C5_0010343_0010365_0010483_00104A5_0010503_0010525_00105DD_0010611_00107FD,
  0x0010804_0010B25_0010B9D_0010BD1_0010BFD_0010C04_0010D7D_0010E04_0011114_0011124,
  0x00111FD_001121A_001125D_00112E5_0011404_0011923_0011945_0011C5A_0011C65_0012066,
  0x0012084_0012745_0012766_0012785_00127A4_00127C6_0012825_0012926_00129A5_00129C6,
  0x0012A04_0012A25_0012B04_0012C45_0012C91_0012CC8_0012E11_0012E23_0012E44_0013025,
  0x0013046_001309D_00130A4_00131BD_00131E4_001323D_0013264_001353D_0013544_001363D,
  0x0013644_001367D_00136C4_001375D_0013785_00137A4_00137C6_0013825_00138BD_00138E6,
  0x001393D_0013966_00139A5_00139C4_00139FD_0013AE6_0013B1D_0013B84_0013BDD_0013BE4,
  0x0013C45_0013C9D_0013CC8_0013E04_0013E53_0013E8A_0013F55_0013F73_0013F84_0013FB1,
  0x0013FC5_0013FFD_0014025_0014066_001409D_00140A4_001417D_00141E4_001423D_0014264,
  0x001453D_0014544_001463D_0014644_001469D_00146A4_00146FD_0014704_001475D_0014785,
  0x00147BD_00147C6_0014825_001487D_00148E5_001493D_0014965_00149DD_0014A25_0014A5D,
  0x0014B24_0014BBD_0014BC4_0014BFD_0014CC8_0014E05_0014E44_0014EA5_0014ED1_0014EFD,
  0x0015025_0015066_001509D_00150A4_00151DD_00151E4_001525D_0015264_001553D_0015544,
  0x001563D_0015644_001569D_00156A4_001575D_0015785_00157A4_00157C6_0015825_00158DD,
  0x00158E5_0015926_001595D_0015966_00159A5_00159DD_0015A04_0015A3D_0015C04_0015C45,
  0x0015C9D_0015CC8_0015E11_0015E33_0015E5D_0015F24_0015F45_001601D_0016025_0016046,
  0x001609D_00160A4_00161BD_00161E4_001623D_0016264_001653D_0016544_001663D_0016644,
  0x001669D_00166A4_001675D_0016785_00167A4_00167C6_00167E5_0016806_0016825_00168BD,
  0x00168E6_001693D_0016966_00169A5_00169DD_0016AA5_0016AE6_0016B1D_0016B84_0016BDD,
  0x0016BE4_0016C45_0016C9D_0016CC8_0016E15_0016E24_0016E4A_0016F1D_0017045_0017064,
  0x001709D_00170A4_001717D_00171C4_001723D_0017244_00172DD_0017324_001737D_0017384,
  0x00173BD_00173C4_001741D_0017464_00174BD_0017504_001757D_00175C4_001775D_00177C6,
  0x0017805_0017826_001787D_00178C6_001793D_0017946_00179A5_00179DD_0017A04_0017A3D,
  0x0017AE6_0017B1D_0017CC8_0017E0A_0017E75_0017F33_0017F55_0017F7D_0018005_0018026,
  0x0018085_00180A4_00181BD_00181C4_001823D_0018244_001853D_0018544_001875D_0018785,
  0x00187A4_00187C5_0018826_00188BD_00188C5_001893D_0018945_00189DD_0018AA5_0018AFD,
  0x0018B04_0018B7D_0018BA4_0018BDD_0018C04_0018C45_0018C9D_0018CC8_0018E1D_0018EF1,
  0x0018F0A_0018FF5_0019004_0019025_0019046_0019091_00190A4_00191BD_00191C4_001923D,
  0x0019244_001953D_0019544_001969D_00196A4_001975D_0019785_00197A4_00197C6_00197E5,
  0x0019806_00198BD_00198C5_00198E6_001993D_0019946_0019985_00199DD_0019AA6_0019AFD,
  0x0019BA4_0019BFD_0019C04_0019C45_0019C9D_0019CC8_0019E1D_0019E24_0019E66_0019E9D,
  0x001A005_001A046_001A084_001A1BD_001A1C4_001A23D_001A244_001A765_001A7A4_001A7C6,
  0x001A825_001A8BD_001A8C6_001A93D_001A946_001A9A5_001A9C4_001A9F5_001AA1D_001AA84,
  0x001AAE6_001AB0A_001ABE4_001AC45_001AC9D_001ACC8_001AE0A_001AF35_001AF44_001B01D,
  0x001B025_001B046_001B09D_001B0A4_001B2FD_001B344_001B65D_001B664_001B79D_001B7A4,
  0x001B7DD_001B804_001B8FD_001B945_001B97D_001B9E6_001BA45_001BABD_001BAC5_001BAFD,
  0x001BB06_001BC1D_001BCC8_001BE1D_001BE46_001BE91_001BEBD_001C024_001C625_001C644,
  0x001C685_001C77D_001C7F3_001C804_001C8C3_001C8E5_001C9F1_001CA08_001CB51_001CB9D,
  0x001D024_001D07D_001D084_001D0BD_001D0C4_001D17D_001D184_001D49D_001D4A4_001D4DD,
  0x001D4E4_001D625_001D644_001D685_001D7A4_001D7DD_001D804_001D8BD_001D8C3_001D8FD,
  0x001D905_001D9FD_001DA08_001DB5D_001DB84_001DC1D_001E004_001E035_001E091_001E275,
  0x001E291_001E2B5_001E305_001E355_001E408_001E54A_001E695_001E6A5_001E6D5_001E6E5,
  0x001E715_001E725_001E74D_001E76E_001E78D_001E7AE_001E7C6_001E804_001E91D_001E924,
  0x001EDBD_001EE25_001EFE6_001F005_001F0B1_001F0C5_001F104_001F1A5_001F31D_001F325,
  0x001F7BD_001F7D5_001F8C5_001F8F5_001F9BD_001F9D5_001FA11_001FAB5_001FB31_001FB7D,
  0x0020004_0020566_00205A5_0020626_0020645_0020706_0020725_0020766_00207A5_00207E4,
  0x0020808_0020951_0020A04_0020AC6_0020B05_0020B44_0020BC5_0020C24_0020C46_0020CA4,
  0x0020CE6_0020DC4_0020E25_0020EA4_0021045_0021066_00210A5_00210E6_00211A5_00211C4,
  0x00211E6_0021208_0021346_00213A5_00213D5_0021400_00218DD_00218E0_002191D_00219A0,
  0x00219DD_0021A01_0021F71_0021F83_0021FA1_0022004_002493D_0024944_00249DD_0024A04,
  0x0024AFD_0024B04_0024B3D_0024B44_0024BDD_0024C04_002513D_0025144_00251DD_0025204,
  0x002563D_0025644_00256DD_0025704_00257FD_0025804_002583D_0025844_00258DD_0025904,
  0x0025AFD_0025B04_002623D_0026244_00262DD_0026304_0026B7D_0026BA5_0026C11_0026D2A,
  0x0026FBD_0027004_0027215_002735D_0027400_0027EDD_0027F01_0027FDD_002800C_0028024,
  0x002CDB5_002CDD1_002CDE4_002D016_002D024_002D36D_002D38E_002D3BD_002D404_002DD71,
  0x002DDC9_002DE24_002DF3D_002E004_002E245_002E2A6_002E2DD_002E3E4_002E645_002E686,
  0x002E6B1_002E6FD_002E804_002EA45_002EA9D_002EC04_002EDBD_002EDC4_002EE3D_002EE45,
  0x002EE9D_002F004_002F685_002F6C6_002F6E5_002F7C6_002F8C5_002F8E6_002F925_002FA91,
  0x002FAE3_002FB11_002FB73_002FB84_002FBA5_002FBDD_002FC08_002FD5D_002FE0A_002FF5D,
  0x0030011_00300CC_00300F1_0030165_00301DA_00301E5_0030208_003035D_0030404_0030863,
  0x0030884_0030F3D_0031004_00310A5_00310E4_0031525_0031544_003157D_0031604_0031EDD,
  0x0032004_00323FD_0032405_0032466_00324E5_0032526_003259D_0032606_0032645_0032666,
  0x0032725_003279D_0032815_003283D_0032891_00328C8_0032A04_0032DDD_0032E04_0032EBD,
  0x0033004_003359D_0033604_003395D_0033A08_0033B4A_0033B7D_0033BD5_0034004_00342E5,
  0x0034326_0034365_003439D_00343D1_0034404_0034AA6_0034AC5_0034AE6_0034B05_0034BFD,
  0x0034C05_0034C26_0034C45_0034C66_0034CA5_0034DA6_0034E65_0034FBD_0034FE5_0035008,
  0x003515D_0035208_003535D_0035411_00354E3_0035511_00355DD_0035605_00357C7_00357E5,
  0x00359FD_0036005_0036086_00360A4_0036685_00366A6_00366C5_0036766_0036785_00367A6,
  0x0036845_0036866_00368A4_00369BD_00369D1_0036A08_0036B51_0036C35_0036D65_0036E95,
  0x0036FB1_0037005_0037046_0037064_0037426_0037445_00374C6_0037505_0037546_0037565,
  0x00375C4_0037608_0037744_0037CC5_0037CE6_0037D05_0037D46_0037DA5_0037DC6_0037DE5,
  0x0037E46_0037E9D_0037F91_0038004_0038486_0038585_0038686_00386C5_003871D_0038771,
  0x0038808_003895D_00389A4_0038A08_0038B44_0038F03_0038FD1_0039001_0039120_0039141,
  0x003917D_0039200_003977D_00397A0_0039811_003991D_0039A05_0039A71_0039A85_0039C26,
  0x0039C45_0039D24_0039DA5_0039DC4_0039E85_0039EA4_0039EE6_0039F05_0039F44_0039F7D,
  0x003A001_003A583_003AD61_003AF03_003AF21_003B363_003B805_003C000_003C021_003C040,
  0x003C061_003C080_003C0A1_003C0C0_003C0E1_003C100_003C121_003C140_003C161_003C180,
  0x003C1A1_003C1C0_003C1E1_003C200_003C221_003C240_003C261_003C280_003C2A1_003C2C0,
  0x003C2E1_003C300_003C321_003C340_003C361_003C380_003C3A1_003C3C0_003C3E1_003C400,
  0x003C421_003C440_003C461_003C480_003C4A1_003C4C0_003C4E1_003C500_003C521_003C540,
  0x003C561_003C580_003C5A1_003C5C0_003C5E1_003C600_003C621_003C640_003C661_003C680,
  0x003C6A1_003C6C0_003C6E1_003C700_003C721_003C740_003C761_003C780_003C7A1_003C7C0,
  0x003C7E1_003C800_003C821_003C840_003C861_003C880_003C8A1_003C8C0_003C8E1_003C900,
  0x003C921_003C940_003C961_003C980_003C9A1_003C9C0_003C9E1_003CA00_003CA21_003CA40,
  0x003CA61_003CA80_003CAA1_003CAC0_003CAE1_003CB00_003CB21_003CB40_003CB61_003CB80,
  0x003CBA1_003CBC0_003CBE1_003CC00_003CC21_003CC40_003CC61_003CC80_003CCA1_003CCC0,
  0x003CCE1_003CD00_003CD21_003CD40_003CD61_003CD80_003CDA1_003CDC0_003CDE1_003CE00,
  0x003CE21_003CE40_003CE61_003CE80_003CEA1_003CEC0_003CEE1_003CF00_003CF21_003CF40,
  0x003CF61_003CF80_003CFA1_003CFC0_003CFE1_003D000_003D021_003D040_003D061_003D080,
  0x003D0A1_003D0C0_003D0E1_003D100_003D121_003D140_003D161_003D180_003D1A1_003D1C0,
  0x003D1E1_003D200_003D221_003D240_003D261_003D280_003D2A1_003D3C0_003D3E1_003D400,
  0x003D421_003D440_003D461_003D480_003D4A1_003D4C0_003D4E1_003D500_003D521_003D540,
  0x003D561_003D580_003D5A1_003D5C0_003D5E1_003D600_003D621_003D640_003D661_003D680,
  0x003D6A1_003D6C0_003D6E1_003D700_003D721_003D740_003D761_003D780_003D7A1_003D7C0,
  0x003D7E1_003D800_003D821_003D840_003D861_003D880_003D8A1_003D8C0_003D8E1_003D900,
  0x003D921_003D940_003D961_003D980_003D9A1_003D9C0_003D9E1_003DA00_003DA21_003DA40,
  0x003DA61_003DA80_003DAA1_003DAC0_003DAE1_003DB00_003DB21_003DB40_003DB61_003DB80,
  0x003DBA1_003DBC0_003DBE1_003DC00_003DC21_003DC40_003DC61_003DC80_003DCA1_003DCC0,
  0x003DCE1_003DD00_003DD21_003DD40_003DD61_003DD80_003DDA1_003DDC0_003DDE1_003DE00,
  0x003DE21_003DE40_003DE61_003DE80_003DEA1_003DEC0_003DEE1_003DF00_003DF21_003DF40,
  0x003DF61_003DF80_003DFA1_003DFC0_003DFE1_003E100_003E201_003E2DD_003E300_003E3DD,
  0x003E401_003E500_003E601_003E700_003E801_003E8DD_003E900_003E9DD_003EA01_003EB1D,
  0x003EB20_003EB5D_003EB60_003EB9D_003EBA0_003EBDD_003EBE0_003EC01_003ED00_003EE01,
  0x003EFDD_003F001_003F102_003F201_003F302_003F401_003F502_003F601_003F6BD_003F6C1,
  0x003F700_003F782_003F7B4_003F7C1_003F7F4_003F841_003F8BD_003F8C1_003F900_003F982,
  0x003F9B4_003FA01_003FA9D_003FAC1_003FB00_003FB9D_003FBB4_003FC01_003FD00_003FDB4,
  0x003FE1D_003FE41_003FEBD_003FEC1_003FF00_003FF82_003FFB4_003FFFD_0040016_004017A,
  0x004020C_00402D1_004030F_0040330_004034D_004036F_00403B0_00403CD_00403EF_0040411,
  0x0040517_0040538_004055A_00405F6_0040611_004072F_0040750_0040771_00407EB_0040831,
  0x0040892_00408AD_00408CE_00408F1_0040A52_0040A71_0040A8B_0040AB1_0040BF6_0040C1A,
  0x0040CBD_0040CDA_0040E0A_0040E23_0040E5D_0040E8A_0040F52_0040FAD_0040FCE_0040FE3,
  0x004100A_0041152_00411AD_00411CE_00411FD_0041203_00413BD_0041413_004183D_0041A05,
  0x0041BA7_0041C25_0041C47_0041CA5_0041E3D_0042015_0042040_0042075_00420E0_0042115,
  0x0042141_0042160_00421C1_0042200_0042261_0042295_00422A0_00422D5_0042312_0042320,
  0x00423D5_0042480_00424B5_00424C0_00424F5_0042500_0042535_0042540_00425D5_00425E1,
  0x0042600_0042681_00426A4_0042721_0042755_0042781_00427C0_0042812_00428A0_00428C1,
  0x0042955_0042972_0042995_00429C1_00429F5_0042A0A_0042C09_0043060_0043081_00430A9,
  0x004312A_0043155_004319D_0043212_00432B5_0043352_0043395_0043412_0043435_0043472,
  0x0043495_00434D2_00434F5_00435D2_00435F5_00439D2_0043A15_0043A52_0043A75_0043A92,
  0x0043AB5_0043E92_0046015_004610D_004612E_004614D_004616E_0046195_0046412_0046455,
  0x004652D_004654E_0046575_0046F92_0046FB5_0047372_0047695_0047B92_0047C55_004855D,
  0x0048815_004897D_0048C0A_0049395_0049D4A_004A015_004B6F2_004B715_004B832_004B855,
  0x004BF12_004C015_004CDF2_004CE15_004ED0D_004ED2E_004ED4D_004ED6E_004ED8D_004EDAE,
  0x004EDCD_004EDEE_004EE0D_004EE2E_004EE4D_004EE6E_004EE8D_004EEAE_004EECA_004F295,
  0x004F812_004F8AD_004F8CE_004F8F2_004FCCD_004FCEE_004FD0D_004FD2E_004FD4D_004FD6E,
  0x004FD8D_004FDAE_004FDCD_004FDEE_004FE12_0050015_0052012_005306D_005308E_00530AD,
  0x00530CE_00530ED_005310E_005312D_005314E_005316D_005318E_00531AD_00531CE_00531ED,
  0x005320E_005322D_005324E_005326D_005328E_00532AD_00532CE_00532ED_005330E_0053332,
  0x0053B0D_0053B2E_0053B4D_0053B6E_0053B92_0053F8D_0053FAE_0053FD2_0056015_0056612,
  0x00568B5_00568F2_00569B5_0056E9D_0056ED5_00572DD_00572F5_0058000_0058601_0058C00,
  0x0058C21_0058C40_0058CA1_0058CE0_0058D01_0058D20_0058D41_0058D60_0058D81_0058DA0,
  0x0058E21_0058E40_0058E61_0058EA0_0058EC1_0058F83_0058FC0_0059021_0059040_0059061,
  0x0059080_00590A1_00590C0_00590E1_0059100_0059121_0059140_0059161_0059180_00591A1,
  0x00591C0_00591E1_0059200_0059221_0059240_0059261_0059280_00592A1_00592C0_00592E1,
  0x0059300_0059321_0059340_0059361_0059380_00593A1_00593C0_00593E1_0059400_0059421,
  0x0059440_0059461_0059480_00594A1_00594C0_00594E1_0059500_0059521_0059540_0059561,
  0x0059580_00595A1_00595C0_00595E1_0059600_0059621_0059640_0059661_0059680_00596A1,
  0x00596C0_00596E1_0059700_0059721_0059740_0059761_0059780_00597A1_00597C0_00597E1,
  0x0059800_0059821_0059840_0059861_0059880_00598A1_00598C0_00598E1_0059900_0059921,
  0x0059940_0059961_0059980_00599A1_00599C0_00599E1_0059A00_0059A21_0059A40_0059A61,
  0x0059A80_0059AA1_0059AC0_0059AE1_0059B00_0059B21_0059B40_0059B61_0059B80_0059BA1,
  0x0059BC0_0059BE1_0059C00_0059C21_0059C40_0059C61_0059CB5_0059D60_0059D81_0059DA0,
  0x0059DC1_0059DE5_0059E40_0059E61_0059E9D_0059F31_0059FAA_0059FD1_005A001_005A4DD,
  0x005A4E1_005A51D_005A5A1_005A5DD_005A604_005AD1D_005ADE3_005AE11_005AE3D_005AFE5,
  0x005B004_005B2FD_005B404_005B4FD_005B504_005B5FD_005B604_005B6FD_005B704_005B7FD,
  0x005B804_005B8FD_005B904_005B9FD_005BA04_005BAFD_005BB04_005BBFD_005BC05_005C011,
  0x005C04F_005C070_005C08F_005C0B0_005C0D1_005C12F_005C150_005C171_005C18F_005C1B0,
  0x005C1D1_005C2EC_005C311_005C34C_005C371_005C38F_005C3B0_005C3D1_005C40F_005C430,
  0x005C44D_005C46E_005C48D_005C4AE_005C4CD_005C4EE_005C50D_005C52E_005C551_005C5E3,
  0x005C611_005C74C_005C791_005C80C_005C831_005C84D_005C871_005CA15_005CA51_005CAAD,
  0x005CACE_005CAED_005CB0E_005CB2D_005CB4E_005CB6D_005CB8E_005CBAC_005CBDD_005D015,
  0x005D35D_005D375_005DE9D_005E015_005FADD_005FE15_0060016_0060031_0060095_00600A3,
  0x00600C4_00600E9_006010D_006012E_006014D_006016E_006018D_00601AE_00601CD_00601EE,
  0x006020D_006022E_0060255_006028D_00602AE_00602CD_00602EE_006030D_006032E_006034D,
  0x006036E_006038C_00603AD_00603CE_0060415_0060429_0060545_00605C6_006060C_0060623,
  0x00606D5_0060709_0060763_0060784_00607B1_00607D5_006081D_0060824_00612FD_0061325,
  0x0061374_00613A3_00613E4_006140C_0061424_0061F71_0061F83_0061FE4_006201D_00620A4,
  0x006261D_0062624_00631FD_0063215_006324A_00632D5_0063404_0063815_0063CDD_0063DF5,
  0x0063E04_0064015_00643FD_006440A_0064555_006490A_0064A15_0064A2A_0064C15_006500A,
  0x0065155_006562A_0065815_0068004_009B815_009C004_01402A3_01402C4_01491BD_0149215,
  0x01498FD_0149A04_0149F03_0149FD1_014A004_014C183_014C1B1_014C204_014C408_014C544,
  0x014C59D_014C800_014C821_014C840_014C861_014C880_014C8A1_014C8C0_014C8E1_014C900,
  0x014C921_014C940_014C961_014C980_014C9A1_014C9C0_014C9E1_014CA00_014CA21_014CA40,
  0x014CA61_014CA80_014CAA1_014CAC0_014CAE1_014CB00_014CB21_014CB40_014CB61_014CB80,
  0x014CBA1_014CBC0_014CBE1_014CC00_014CC21_014CC40_014CC61_014CC80_014CCA1_014CCC0,
  0x014CCE1_014CD00_014CD21_014CD40_014CD61_014CD80_014CDA1_014CDC4_014CDE5_014CE07,
  0x014CE71_014CE85_014CFD1_014CFE3_014D000_014D021_014D040_014D061_014D080_014D0A1,
  0x014D0C0_014D0E1_014D100_014D121_014D140_014D161_014D180_014D1A1_014D1C0_014D1E1,
  0x014D200_014D221_014D240_014D261_014D280_014D2A1_014D2C0_014D2E1_014D300_014D321,
  0x014D340_014D361_014D383_014D3C5_014D404_014DCC9_014DE05_014DE51_014DF1D_014E014,
  0x014E2E3_014E414_014E440_014E461_014E480_014E4A1_014E4C0_014E4E1_014E500_014E521,
  0x014E540_014E561_014E580_014E5A1_014E5C0_014E5E1_014E640_014E661_014E680_014E6A1,
  0x014E6C0_014E6E1_014E700_014E721_014E740_014E761_014E780_014E7A1_014E7C0_014E7E1,
  0x014E800_014E821_014E840_014E861_014E880_014E8A1_014E8C0_014E8E1_014E900_014E921,
  0x014E940_014E961_014E980_014E9A1_014E9C0_014E9E1_014EA00_014EA21_014EA40_014EA61,
  0x014EA80_014EAA1_014EAC0_014EAE1_014EB00_014EB21_014EB40_014EB61_014EB80_014EBA1,
  0x014EBC0_014EBE1_014EC00_014EC21_014EC40_014EC61_014EC80_014ECA1_014ECC0_014ECE1,
  0x014ED00_014ED21_014ED40_014ED61_014ED80_014EDA1_014EDC0_014EDE1_014EE03_014EE21,
  0x014EF20_014EF41_014EF60_014EF81_014EFA0_014EFE1_014F000_014F021_014F040_014F061,
  0x014F080_014F0A1_014F0C0_014F0E1_014F103_014F134_014F160_014F181_014F1A0_014F1C1,
  0x014F1E4_014F200_014F221_014F240_014F261_014F2C0_014F2E1_014F300_014F321_014F340,
  0x014F361_014F380_014F3A1_014F3C0_014F3E1_014F400_014F421_014F440_014F461_014F480,
  0x014F4A1_014F4C0_014F4E1_014F500_014F521_014F540_014F5E1_014F600_014F6A1_014F6C0,
  0x014F6E1_014F700_014F721_014F740_014F761_014F780_014F7A1_014F7C0_014F7E1_014F800,
  0x014F821_014F840_014F861_014F880_014F901_014F920_014F941_014F960_014F9A1_014F9DD,
  0x014FA00_014FA21_014FA5D_014FA61_014FA9D_014FAA1_014FAC0_014FAE1_014FB00_014FB21,
  0x014FB40_014FB61_014FB80_014FBBD_014FE43_014FEA0_014FEC1_014FEE4_014FF03_014FF41,
  0x014FF64_0150045_0150064_01500C5_01500E4_0150165_0150184_0150466_01504A5_01504E6,
  0x0150515_0150585_01505BD_015060A_01506D5_0150713_0150735_015075D_0150804_0150E91,
  0x0150F1D_0151006_0151044_0151686_0151885_01518DD_01519D1_0151A08_0151B5D_0151C05,
  0x0151E44_0151F11_0151F64_0151F91_0151FA4_0151FE5_0152008_0152144_01524C5_01525D1,
  0x0152604_01528E5_0152A46_0152A9D_0152BF1_0152C04_0152FBD_0153005_0153066_0153084,
  0x0153665_0153686_01536C5_0153746_0153785_01537C6_0153831_01539DD_01539E3_0153A08,
  0x0153B5D_0153BD1_0153C04_0153CA5_0153CC3_0153CE4_0153E08_0153F44_0153FFD_0154004,
  0x0154525_01545E6_0154625_0154666_01546A5_01546FD_0154804_0154865_0154884_0154985,
  0x01549A6_01549DD_0154A08_0154B5D_0154B91_0154C04_0154E03_0154E24_0154EF5_0154F44,
  0x0154F66_0154F85_0154FA6_0154FC4_0155605_0155624_0155645_01556A4_01556E5_0155724,
  0x01557C5_0155804_0155825_0155844_015587D_0155B64_0155BA3_0155BD1_0155C04_0155D66,
  0x0155D85_0155DC6_0155E11_0155E44_0155E63_0155EA6_0155EC5_0155EFD_0156024_01560FD,
  0x0156124_01561FD_0156224_01562FD_0156404_01564FD_0156504_01565FD_0156601_0156B74,
  0x0156B83_0156C01_0156D23_0156D54_0156D9D_0156E01_0157804_0157C66_0157CA5_0157CC6,
  0x0157D05_0157D26_0157D71_0157D86_0157DA5_0157DDD_0157E08_0157F5D_0158004_01AF49D,
  0x01AF604_01AF8FD_01AF964_01AFF9D_01B001B_01C001C_01F2004_01F4DDD_01F4E04_01F5B5D,
  0x01F6001_01F60FD_01F6261_01F631D_01F63A4_01F63C5_01F63E4_01F6532_01F6544_01F66FD,
  0x01F6704_01F67BD_01F67C4_01F67FD_01F6804_01F685D_01F6864_01F68BD_01F68C4_01F7654,
  0x01F787D_01F7A64_01FA7CE_01FA7ED_01FA815_01FAA04_01FB21D_01FB244_01FB91D_01FB9F5,
  0x01FBA1D_01FBE04_01FBF93_01FBFB5_01FC005_01FC211_01FC2ED_01FC30E_01FC331_01FC35D,
  0x01FC405_01FC611_01FC62C_01FC66B_01FC6AD_01FC6CE_01FC6ED_01FC70E_01FC72D_01FC74E,
  0x01FC76D_01FC78E_01FC7AD_01FC7CE_01FC7ED_01FC80E_01FC82D_01FC84E_01FC86D_01FC88E,
  0x01FC8B1_01FC8ED_01FC90E_01FC931_01FC9AB_01FCA11_01FCA7D_01FCA91_01FCB0C_01FCB2D,
  0x01FCB4E_01FCB6D_01FCB8E_01FCBAD_01FCBCE_01FCBF1_01FCC52_01FCC6C_01FCC92_01FCCFD,
  0x01FCD11_01FCD33_01FCD51_01FCD9D_01FCE04_01FCEBD_01FCEC4_01FDFBD_01FDFFA_01FE01D,
  0x01FE031_01FE093_01FE0B1_01FE10D_01FE12E_01FE151_01FE172_01FE191_01FE1AC_01FE1D1,
  0x01FE208_01FE351_01FE392_01FE3F1_01FE420_01FE76D_01FE791_01FE7AE_01FE7D4_01FE7EB,
  0x01FE814_01FE821_01FEB6D_01FEB92_01FEBAE_01FEBD2_01FEBED_01FEC0E_01FEC31_01FEC4D,
  0x01FEC6E_01FEC91_01FECC4_01FEE03_01FEE24_01FF3C3_01FF404_01FF7FD_01FF844_01FF91D,
  0x01FF944_01FFA1D_01FFA44_01FFB1D_01FFB44_01FFBBD_01FFC13_01FFC52_01FFC74_01FFC95,
  0x01FFCB3_01FFCFD_01FFD15_01FFD32_01FFDB5_01FFDFD_01FFF3A_01FFF95_01FFFDD_0200004,
  0x020019D_02001A4_02004FD_0200504_020077D_0200784_02007DD_02007E4_02009DD_0200A04,
  0x0200BDD_0201004_0201F7D_0202011_020207D_02020EA_020269D_02026F5_0202809_0202EAA,
  0x0202F35_020314A_0203195_02031FD_0203215_02033BD_0203415_020343D_0203A15_0203FA5,
  0x0203FDD_0205004_02053BD_0205404_0205A3D_0205C05_0205C2A_0205F9D_0206004_020640A,
  0x020649D_02065A4_0206829_0206844_0206949_020697D_0206A04_0206EC5_0206F7D_0207004,
  0x02073DD_02073F1_0207404_020789D_0207904_0207A11_0207A29_0207ADD_0208000_0208501,
  0x0208A04_02093DD_0209408_020955D_0209600_0209A9D_0209B01_0209F9D_020A004_020A51D,
  0x020A604_020AC9D_020ADF1_020AE00_020AF7D_020AF80_020B17D_020B180_020B27D_020B280,
  0x020B2DD_020B2E1_020B45D_020B461_020B65D_020B661_020B75D_020B761_020B7BD_020B804,
  0x020BE9D_020C004_020E6FD_020E804_020EADD_020EC04_020ED1D_020F003_020F0DD_020F0E3,
  0x020F63D_020F643_020F77D_0210004_02100DD_0210104_021013D_0210144_02106DD_02106E4,
  0x021073D_0210784_02107BD_02107E4_0210ADD_0210AF1_0210B0A_0210C04_0210EF5_0210F2A,
  0x0211004_02113FD_02114EA_021161D_0211C04_0211E7D_0211E84_0211EDD_0211F6A_0212004,
  0x02122CA_021239D_02123F1_0212404_021275D_02127F1_021281D_0213004_021371D_021378A,
  0x02137C4_021380A_0213A1D_0213A4A_0214004_0214025_021409D_02140A5_02140FD_0214185,
  0x0214204_021429D_02142A4_021431D_0214324_02146DD_0214705_021477D_02147E5_021480A,
  0x021493D_0214A11_0214B3D_0214C04_0214FAA_0214FF1_0215004_02153AA_021541D_0215804,
  0x0215915_0215924_0215CA5_0215CFD_0215D6A_0215E11_0215EFD_0216004_02166DD_0216731,
  0x0216804_0216ADD_0216B0A_0216C04_0216E7D_0216F0A_0217004_021725D_0217331_02173BD,
  0x021752A_021761D_0218004_021893D_0219000_021967D_0219801_0219E7D_0219F4A_021A004,
  0x021A485_021A51D_021A608_021A75D_021A808_021A944_021A9C3_021A9E4_021AA00_021ACDD,
  0x021AD25_021ADCC_021ADE3_021AE01_021B0DD_021B1D2_021B21D_021CC0A_021CFFD_021D004,
  0x021D55D_021D565_021D5AC_021D5DD_021D604_021D65D_021D844_021D8BD_021DF85_021E004,
  0x021E3AA_021E4E4_021E51D_021E604_021E8C5_021EA2A_021EAB1_021EB5D_021EE04_021F045,
  0x021F0D1_021F15D_021F604_021F8AA_021F99D_021FC04_021FEFD_0220006_0220025_0220046,
  0x0220064_0220705_02208F1_02209DD_0220A4A_0220CC8_0220E05_0220E24_0220E65_0220EA4,
  0x0220EDD_0220FE5_0221046_0221064_0221606_0221665_02216E6_0221725_0221771_02217BA,
  0x02217D1_0221845_022187D_02219BA_02219DD_0221A04_0221D3D_0221E08_0221F5D_0222005,
  0x0222064_02224E5_0222586_02225A5_02226BD_02226C8_0222811_0222884_02228A6_02228E4,
  0x022291D_0222A04_0222E65_0222E91_0222EC4_0222EFD_0223005_0223046_0223064_0223666,
  0x02236C5_02237E6_0223824_02238B1_0223925_02239B1_02239C6_02239E5_0223A08_0223B44,
  0x0223B71_0223B84_0223BB1_0223C1D_0223C2A_0223EBD_0224004_022425D_0224264_0224586,
  0x02245E5_0224646_0224685_02246A6_02246C5_0224711_02247C5_02247E4_0224825_022485D,
  0x0225004_02250FD_0225104_022513D_0225144_02251DD_02251E4_02253DD_02253E4_0225531,
  0x022555D_0225604_0225BE5_0225C06_0225C65_0225D7D_0225E08_0225F5D_0226005_0226046,
  0x022609D_02260A4_02261BD_02261E4_022623D_0226264_022653D_0226544_022663D_0226644,
  0x022669D_02266A4_022675D_0226765_02267A4_02267C6_0226805_0226826_02268BD_02268E6,
  0x022693D_0226966_02269DD_0226A04_0226A3D_0226AE6_0226B1D_0226BA4_0226C46_0226C9D,
  0x0226CC5_0226DBD_0226E05_0226EBD_0227004_022715D_0227164_022719D_02271C4_02271FD,
  0x0227204_02276DD_02276E4_0227706_0227765_022783D_0227846_022787D_02278A6_02278DD,
  0x02278E6_022797D_0227986_02279C5_02279E6_0227A05_0227A24_0227A45_0227A64_0227A91,
  0x0227ADD_0227AF1_0227B3D_0227C25_0227C7D_0228004_02286A6_0228705_0228806_0228845,
  0x02288A6_02288C5_02288E4_0228971_0228A08_0228B51_0228B9D_0228BB1_0228BC5_0228BE4,
  0x0228C5D_0229004_0229606_0229665_0229726_0229745_0229766_02297E5_0229826_0229845,
  0x0229884_02298D1_02298E4_022991D_0229A08_0229B5D_022B004_022B5E6_022B645_022B6DD,
  0x022B706_022B785_022B7C6_022B7E5_022B831_022BB04_022BB85_022BBDD_022C004_022C606,
  0x022C665_022C766_022C7A5_022C7C6_022C7E5_022C831_022C884_022C8BD_022CA08_022CB5D,
  0x022CC11_022CDBD_022D004_022D565_022D586_022D5A5_022D5C6_022D605_022D6C6_022D6E5,
  0x022D704_022D731_022D75D_022D808_022D95D_022DA08_022DC9D_022E004_022E37D_022E3A5,
  0x022E3C6_022E3E5_022E406_022E445_022E4C6_022E4E5_022E59D_022E608_022E74A_022E791,
  0x022E7F5_022E804_022E8FD_0230004_0230586_02305E5_0230706_0230725_0230771_023079D,
  0x0231400_0231801_0231C08_0231D4A_0231E7D_0231FE4_02320FD_0232124_023215D_0232184,
  0x023229D_02322A4_02322FD_0232304_0232606_02326DD_02326E6_023273D_0232765_02327A6,
  0x02327C5_02327E4_0232806_0232824_0232846_0232865_0232891_02328FD_0232A08_0232B5D,
  0x0233404_023351D_0233544_0233A26_0233A85_0233B1D_0233B45_0233B86_0233C05_0233C24,
  0x0233C51_0233C64_0233C86_0233CBD_0234004_0234025_0234164_0234665_0234726_0234744,
  0x0234765_02347F1_02348E5_023491D_0234A04_0234A25_0234AE6_0234B25_0234B84_0235145,
  0x02352E6_0235305_0235351_02353A4_02353D1_023547D_0235604_0235F3D_0236011_023615D,
  0x0237804_0237C31_0237C5D_0237E08_0237F5D_0238004_023813D_0238144_02385E6_0238605,
  0x02386FD_0238705_02387C6_02387E5_0238804_0238831_02388DD_0238A08_0238B4A_0238DBD,
  0x0238E11_0238E44_023921D_0239245_023951D_0239526_0239545_0239626_0239645_0239686,
  0x02396A5_02396FD_023A004_023A0FD_023A104_023A15D_023A164_023A625_023A6FD_023A745,
  0x023A77D_023A785_023A7DD_023A7E5_023A8C4_023A8E5_023A91D_023AA08_023AB5D_023AC04,
  0x023ACDD_023ACE4_023AD3D_023AD44_023B146_023B1FD_023B205_023B25D_023B266_023B2A5,
  0x023B2C6_023B2E5_023B304_023B33D_023B408_023B55D_023DC04_023DE65_023DEA6_023DEF1,
  0x023DF3D_023E005_023E044_023E066_023E084_023E23D_023E244_023E686_023E6C5_023E77D,
  0x023E7C6_023E805_023E826_023E845_023E871_023EA08_023EB45_023EB7D_023F604_023F63D,
  0x023F80A_023FAB5_023FBB3_023FC35_023FE5D_023FFF1_0240004_024735D_0248009_0248DFD,
  0x0248E11_0248EBD_0249004_024A89D_025F204_025FE31_025FE7D_0260004_026861A_0268805,
  0x0268824_02688E5_0268ADD_0268C04_0287F7D_0288004_028C8FD_02C2004_02C23C5_02C2546,
  0x02C25A5_02C2608_02C275D_02D0004_02D473D_02D4804_02D4BFD_02D4C08_02D4D5D_02D4DD1,
  0x02D4E04_02D57FD_02D5808_02D595D_02D5A04_02D5DDD_02D5E05_02D5EB1_02D5EDD_02D6004,
  0x02D6605_02D66F1_02D6795_02D6803_02D6891_02D68B5_02D68DD_02D6A08_02D6B5D_02D6B6A,
  0x02D6C5D_02D6C64_02D6F1D_02D6FA4_02D721D_02DA803_02DA864_02DAD63_02DADB1_02DAE08,
  0x02DAF5D_02DC800_02DCC01_02DD00A_02DD2F1_02DD37D_02DE004_02DE97D_02DE9E5_02DEA04,
  0x02DEA26_02DF11D_02DF1E5_02DF263_02DF41D_02DFC03_02DFC51_02DFC63_02DFC85_02DFCBD,
  0x02DFE06_02DFE5D_02E0004_030FF1D_0310004_0319ADD_0319FE4_031A13D_035FE03_035FE9D,
  0x035FEA3_035FF9D_035FFA3_035FFFD_0360004_036247D_0362644_036267D_0362A04_0362A7D,
  0x0362AA4_0362ADD_0362C84_0362D1D_0362E04_0365F9D_0378004_0378D7D_0378E04_0378FBD,
  0x0379004_037913D_0379204_037935D_0379395_03793A5_03793F1_037941A_037949D_0398015,
  0x0399E08_0399F5D_039A015_039D69D_039E005_039E5DD_039E605_039E8FD_039EA15_039F89D,
  0x03A0015_03A1EDD_03A2015_03A24FD_03A2535_03A2CA6_03A2CE5_03A2D55_03A2DA6_03A2E7A,
  0x03A2F65_03A3075_03A30A5_03A3195_03A3545_03A35D5_03A3D7D_03A4015_03A4845_03A48B5,
  0x03A48DD_03A580A_03A5A9D_03A5C0A_03A5E9D_03A6015_03A6AFD_03A6C0A_03A6F3D_03A8000,
  0x03A8341_03A8680_03A89C1_03A8ABD_03A8AC1_03A8D00_03A9041_03A9380_03A93BD_03A93C0,
  0x03A941D_03A9440_03A947D_03A94A0_03A94FD_03A9520_03A95BD_03A95C0_03A96C1_03A975D,
  0x03A9761_03A979D_03A97A1_03A989D_03A98A1_03A9A00_03A9D41_03AA080_03AA0DD_03AA0E0,
  0x03AA17D_03AA1A0_03AA2BD_03AA2C0_03AA3BD_03AA3C1_03AA700_03AA75D_03AA760_03AA7FD,
  0x03AA800_03AA8BD_03AA8C0_03AA8FD_03AA940_03AAA3D_03AAA41_03AAD80_03AB0C1_03AB400,
  0x03AB741_03ABA80_03ABDC1_03AC100_03AC441_03AC780_03ACAC1_03ACE00_03AD141_03AD4DD,
  0x03AD500_03AD832_03AD841_03ADB72_03ADB81_03ADC40_03ADF72_03ADF81_03AE2B2_03AE2C1,
  0x03AE380_03AE6B2_03AE6C1_03AE9F2_03AEA01_03AEAC0_03AEDF2_03AEE01_03AF132_03AF141,
  0x03AF200_03AF532_03AF541_03AF872_03AF881_03AF940_03AF961_03AF99D_03AF9C8_03B0015,
  0x03B4005_03B46F5_03B4765_03B4DB5_03B4EA5_03B4ED5_03B5085_03B50B5_03B50F1_03B519D,
  0x03B5365_03B541D_03B5425_03B561D_03BE001_03BE144_03BE161_03BE3FD_03BE4A1_03BE57D,
  0x03C0005_03C00FD_03C0105_03C033D_03C0365_03C045D_03C0465_03C04BD_03C04C5_03C057D,
  0x03C0603_03C0DDD_03C11E5_03C121D_03C2004_03C25BD_03C2605_03C26E3_03C27DD_03C2808,
  0x03C295D_03C29C4_03C29F5_03C2A1D_03C5204_03C55C5_03C55FD_03C5804_03C5D85_03C5E08,
  0x03C5F5D_03C5FF3_03C601D_03C9A04_03C9D63_03C9D85_03C9E08_03C9F5D_03CBA04_03CBDC5,
  0x03CBE04_03CBE28_03CBF7D_03CBFF1_03CC01D_03CFC04_03CFCFD_03CFD04_03CFD9D_03CFDA4,
  0x03CFDFD_03CFE04_03CFFFD_03D0004_03D18BD_03D18EA_03D1A05_03D1AFD_03D2000_03D2441,
  0x03D2885_03D2963_03D299D_03D2A08_03D2B5D_03D2BD1_03D2C1D_03D8E2A_03D9595_03D95AA,
  0x03D9613_03D962A_03D96BD_03DA02A_03DA5D5_03DA5EA_03DA7DD_03DC004_03DC09D_03DC0A4,
  0x03DC41D_03DC424_03DC47D_03DC484_03DC4BD_03DC4E4_03DC51D_03DC524_03DC67D_03DC684,
  0x03DC71D_03DC724_03DC75D_03DC764_03DC79D_03DC844_03DC87D_03DC8E4_03DC91D_03DC924,
  0x03DC95D_03DC964_03DC99D_03DC9A4_03DCA1D_03DCA24_03DCA7D_03DCA84_03DCABD_03DCAE4,
  0x03DCB1D_03DCB24_03DCB5D_03DCB64_03DCB9D_03DCBA4_03DCBDD_03DCBE4_03DCC1D_03DCC24,
  0x03DCC7D_03DCC84_03DCCBD_03DCCE4_03DCD7D_03DCD84_03DCE7D_03DCE84_03DCF1D_03DCF24,
  0x03DCFBD_03DCFC4_03DCFFD_03DD004_03DD15D_03DD164_03DD39D_03DD424_03DD49D_03DD4A4,
  0x03DD55D_03DD564_03DD79D_03DDE12_03DDE5D_03E0015_03E059D_03E0615_03E129D_03E1415,
  0x03E15FD_03E1635_03E181D_03E1835_03E1A1D_03E1A35_03E1EDD_03E200A_03E21B5_03E35DD,
  0x03E3CD5_03E407D_03E4215_03E479D_03E4815_03E493D_03E4A15_03E4A5D_03E4C15_03E4CDD,
  0x03E6015_03E7F74_03E8015_03EDB1D_03EDB95_03EDDBD_03EDE15_03EDFBD_03EE015_03EEEFD,
  0x03EEF75_03EFB5D_03EFC15_03EFD9D_03EFE15_03EFE3D_03F0015_03F019D_03F0215_03F091D,
  0x03F0A15_03F0B5D_03F0C15_03F111D_03F1215_03F15DD_03F1615_03F179D_03F1815_03F185D,
  0x03F2015_03F4A9D_03F4C15_03F4DDD_03F4E15_03F4FBD_03F5015_03F515D_03F51F5_03F58FD,
  0x03F59D5_03F5BBD_03F5BF5_03F5D5D_03F5E15_03F5F3D_03F6015_03F727D_03F7295_03F7E08,
  0x03F7F5D_0400004_054DC1D_054E004_056E75D_056E804_05703DD_0570404_059D45D_059D604,
  0x05D7C3D_05D7E04_05DCBDD_05F0004_05F43DD_0600004_062697D_0626A04_064761D_1C0003A,
  0x1C0005D_1C0041A_1C0101D_1C02005_1C03E1D_1E0001C_1FFFFDD_200001C_21FFFDD_0000000]

end TextTypes.Unicode.CategoryData
