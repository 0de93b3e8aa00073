import LintBridge.Text.CodeTable

/-!
# Letters and their marks

The order of the marks of a letter, and the characters that are composed of both.
-/

set_option autoImplicit false

/-!
## Tables of marks

The places of marks, the characters that are composed of a letter and a mark, and the
characters that cannot begin a label; see `LintBridge.Text.CodeTable`.
-/

namespace LintBridge.Domain.MarkTable

/-- The place of a mark at its letter, as a number. -/
def places : List String :=
  ["300-314=E6 315=E8 316-319=DC 31A=E8 31B=D8 31C-320=DC 321-322=CA 323-326=DC 327-328=CA",
   "329-333=DC 334-338=1 339-33C=DC 33D-33F=E6 342=E6 346=E6 347-349=DC 34A-34C=E6 34D-34E=DC",
   "350-352=E6 353-356=DC 357=E6 358=E8 359-35A=DC 35B=E6 35C=E9 35D-35E=EA 35F=E9 360-361=EA",
   "362=E9 363-36F=E6 483-487=E6 591=DC 592-595=E6 596=DC 597-599=E6 59A=DE 59B=DC 59C-5A1=E6",
   "5A2-5A7=DC 5A8-5A9=E6 5AA=DC 5AB-5AC=E6 5AD=DE 5AE=E4 5AF=E6 5B0=A 5B1=B 5B2=C 5B3=D 5B4=E",
   "5B5=F 5B6=10 5B7=11 5B8=12 5B9-5BA=13 5BB=14 5BC=15 5BD=16 5BF=17 5C1=18 5C2=19 5C4=E6",
   "5C5=DC 5C7=12 610-617=E6 618=1E 619=1F 61A=20 64B=1B 64C=1C 64D=1D 64E=1E 64F=1F 650=20",
   "651=21 652=22 653-654=E6 655-656=DC 657-65B=E6 65C=DC 65D-65E=E6 65F=DC 670=23 6D6-6DC=E6",
   "6DF-6E2=E6 6E3=DC 6E4=E6 6E7-6E8=E6 6EA=DC 6EB-6EC=E6 6ED=DC 711=24 730=E6 731=DC",
   "732-733=E6 734=DC 735-736=E6 737-739=DC 73A=E6 73B-73C=DC 73D=E6 73E=DC 73F-741=E6 742=DC",
   "743=E6 744=DC 745=E6 746=DC 747=E6 748=DC 749-74A=E6 7EB-7F1=E6 7F2=DC 7F3=E6 7FD=DC",
   "816-819=E6 81B-823=E6 825-827=E6 829-82D=E6 859-85B=DC 897-898=E6 899-89B=DC 89C-89F=E6",
   "8CA-8CE=E6 8CF-8D3=DC 8D4-8E1=E6 8E3=DC 8E4-8E5=E6 8E6=DC 8E7-8E8=E6 8E9=DC 8EA-8EC=E6",
   "8ED-8EF=DC 8F0=1B 8F1=1C 8F2=1D 8F3-8F5=E6 8F6=DC 8F7-8F8=E6 8F9-8FA=DC 8FB-8FF=E6 93C=7",
   "94D=9 951=E6 952=DC 953-954=E6 9BC=7 9CD=9 9FE=E6 A3C=7 A4D=9 ABC=7 ACD=9 B3C=7 B4D=9",
   "BCD=9 C3C=7 C4D=9 C55=54 C56=5B CBC=7 CCD=9 D3B-D3C=9 D4D=9 DCA=9 E38-E39=67 E3A=9",
   "E48-E4B=6B EB8-EB9=76 EBA=9 EC8-ECB=7A F18-F19=DC F35=DC F37=DC F39=D8 F71=81 F72=82",
   "F74=84 F7A-F7D=82 F80=82 F82-F83=E6 F84=9 F86-F87=E6 FC6=DC 1037=7 1039-103A=9 108D=DC",
   "135D-135F=E6 1714-1715=9 1734=9 17D2=9 17DD=E6 18A9=E4 1939=DE 193A=E6 193B=DC 1A17=E6",
   "1A18=DC 1A60=9 1A75-1A7C=E6 1A7F=DC 1AB0-1AB4=E6 1AB5-1ABA=DC 1ABB-1ABC=E6 1ABD=DC",
   "1ABF-1AC0=DC 1AC1-1AC2=E6 1AC3-1AC4=DC 1AC5-1AC9=E6 1ACA=DC 1ACB-1ADC=E6 1ADD=DC",
   "1AE0-1AE5=E6 1AE6=DC 1AE7-1AEA=E6 1AEB=EA 1B34=7 1B44=9 1B6B=E6 1B6C=DC 1B6D-1B73=E6",
   "1BAA-1BAB=9 1BE6=7 1BF2-1BF3=9 1C37=7 1CD0-1CD2=E6 1CD4=1 1CD5-1CD9=DC 1CDA-1CDB=E6",
   "1CDC-1CDF=DC 1CE0=E6 1CE2-1CE8=1 1CED=DC 1CF4=E6 1CF8-1CF9=E6 1DC0-1DC1=E6 1DC2=DC",
   "1DC3-1DC9=E6 1DCA=DC 1DCB-1DCC=E6 1DCD=EA 1DCE=D6 1DCF=DC 1DD0=CA 1DD1-1DF5=E6 1DF6=E8",
   "1DF7-1DF8=E4 1DF9=DC 1DFA=DA 1DFB=E6 1DFC=E9 1DFD=DC 1DFE=E6 1DFF=DC 20D0-20D1=E6",
   "20D2-20D3=1 20D4-20D7=E6 20D8-20DA=1 20DB-20DC=E6 20E1=E6 20E5-20E6=1 20E7=E6 20E8=DC",
   "20E9=E6 20EA-20EB=1 20EC-20EF=DC 20F0=E6 2CEF-2CF1=E6 2D7F=9 2DE0-2DFF=E6 302A=DA 302B=E4",
   "302C=E8 302D=DE 302E-302F=E0 3099-309A=8 A66F=E6 A674-A67D=E6 A69E-A69F=E6 A6F0-A6F1=E6",
   "A806=9 A82C=9 A8C4=9 A8E0-A8F1=E6 A92B-A92D=DC A953=9 A9B3=7 A9C0=9 AAB0=E6 AAB2-AAB3=E6",
   "AAB4=DC AAB7-AAB8=E6 AABE-AABF=E6 AAC1=E6 AAF6=9 ABED=9 FB1E=1A FE20-FE26=E6 FE27-FE2D=DC",
   "FE2E-FE2F=E6 101FD=DC 102E0=DC 10376-1037A=E6 10A0D=DC 10A0F=E6 10A38=E6 10A39=1 10A3A=DC",
   "10A3F=9 10AE5=E6 10AE6=DC 10D24-10D27=E6 10D69-10D6D=E6 10EAB-10EAC=E6 10EFA-10EFB=DC",
   "10EFD-10EFF=DC 10F46-10F47=DC 10F48-10F4A=E6 10F4B=DC 10F4C=E6 10F4D-10F50=DC 10F82=E6",
   "10F83=DC 10F84=E6 10F85=DC 11046=9 11070=9 1107F=9 110B9=9 110BA=7 11100-11102=E6",
   "11133-11134=9 11173=7 111C0=9 111CA=7 11235=9 11236=7 112E9=7 112EA=9 1133B-1133C=7",
   "1134D=9 11366-1136C=E6 11370-11374=E6 113CE-113D0=9 11442=9 11446=7 1145E=E6 114C2=9",
   "114C3=7 115BF=9 115C0=7 1163F=9 116B6=9 116B7=7 1172B=9 11839=9 1183A=7 1193D-1193E=9",
   "11943=7 119E0=9 11A34=9 11A47=9 11A99=9 11C3F=9 11D42=7 11D44-11D45=9 11D97=9",
   "11F41-11F42=9 1612F=9 16AF0-16AF4=1 16B30-16B36=E6 16FF0-16FF1=6 1BC9E=1 1D165-1D166=D8",
   "1D167-1D169=1 1D16D=E2 1D16E-1D172=D8 1D17B-1D182=DC 1D185-1D189=E6 1D18A-1D18B=DC",
   "1D1AA-1D1AD=E6 1D242-1D244=E6 1E000-1E006=E6 1E008-1E018=E6 1E01B-1E021=E6 1E023-1E024=E6",
   "1E026-1E02A=E6 1E08F=E6 1E130-1E136=E6 1E2AE=E6 1E2EC-1E2EF=E6 1E4EC-1E4ED=E8 1E4EE=DC",
   "1E4EF=E6 1E5EE=E6 1E5EF=DC 1E6E3=E6 1E6E6=E6 1E6EE-1E6EF=E6 1E6F5=E6 1E8D0-1E8D6=DC",
   "1E944-1E949=E6 1E94A=7"]

def compositions : List String :=
  ["C0=41_300,41_301,41_302,41_303,41_308,41_30A",
   "C7=43_327,45_300,45_301,45_302,45_308,49_300,49_301,49_302 CF=49_308",
   "D1=4E_303,4F_300,4F_301,4F_302,4F_303,4F_308 D9=55_300,55_301,55_302,55_308,59_301",
   "E0=61_300,61_301,61_302,61_303,61_308,61_30A",
   "E7=63_327,65_300,65_301,65_302,65_308,69_300,69_301,69_302 EF=69_308",
   "F1=6E_303,6F_300,6F_301,6F_302,6F_303,6F_308 F9=75_300,75_301,75_302,75_308,79_301",
   "FF=79_308,41_304,61_304,41_306,61_306,41_328,61_328,43_301",
   "107=63_301,43_302,63_302,43_307,63_307,43_30C,63_30C,44_30C 10F=64_30C",
   "112=45_304,65_304,45_306,65_306,45_307,65_307,45_328,65_328",
   "11A=45_30C,65_30C,47_302,67_302,47_306,67_306,47_307,67_307",
   "122=47_327,67_327,48_302,68_302",
   "128=49_303,69_303,49_304,69_304,49_306,69_306,49_328,69_328 130=49_307",
   "134=4A_302,6A_302,4B_327,6B_327 139=4C_301,6C_301,4C_327,6C_327,4C_30C,6C_30C",
   "143=4E_301,6E_301,4E_327,6E_327,4E_30C,6E_30C",
   "14C=4F_304,6F_304,4F_306,6F_306,4F_30B,6F_30B",
   "154=52_301,72_301,52_327,72_327,52_30C,72_30C,53_301,73_301",
   "15C=53_302,73_302,53_327,73_327,53_30C,73_30C,54_327,74_327 164=54_30C,74_30C",
   "168=55_303,75_303,55_304,75_304,55_306,75_306,55_30A,75_30A",
   "170=55_30B,75_30B,55_328,75_328,57_302,77_302,59_302,79_302",
   "178=59_308,5A_301,7A_301,5A_307,7A_307,5A_30C,7A_30C 1A0=4F_31B,6F_31B 1AF=55_31B,75_31B",
   "1CD=41_30C,61_30C,49_30C,69_30C,4F_30C,6F_30C,55_30C,75_30C",
   "1D5=DC_304,FC_304,DC_301,FC_301,DC_30C,FC_30C,DC_300,FC_300",
   "1DE=C4_304,E4_304,226_304,227_304,C6_304,E6_304",
   "1E6=47_30C,67_30C,4B_30C,6B_30C,4F_328,6F_328,1EA_304 1ED=1EB_304,1B7_30C,292_30C,6A_30C",
   "1F4=47_301,67_301 1F8=4E_300,6E_300,C5_301,E5_301,C6_301,E6_301,D8_301,F8_301",
   "200=41_30F,61_30F,41_311,61_311,45_30F,65_30F,45_311,65_311",
   "208=49_30F,69_30F,49_311,69_311,4F_30F,6F_30F,4F_311,6F_311",
   "210=52_30F,72_30F,52_311,72_311,55_30F,75_30F,55_311,75_311",
   "218=53_326,73_326,54_326,74_326 21E=48_30C,68_30C",
   "226=41_307,61_307,45_327,65_327,D6_304,F6_304,D5_304,F5_304",
   "22E=4F_307,6F_307,22E_304,22F_304,59_304,79_304 385=A8_301,391_301",
   "388=395_301,397_301,399_301 38C=39F_301 38E=3A5_301,3A9_301,3CA_301",
   "3AA=399_308,3A5_308,3B1_301,3B5_301,3B7_301,3B9_301,3CB_301",
   "3CA=3B9_308,3C5_308,3BF_301,3C5_301,3C9_301 3D3=3D2_301,3D2_308 400=415_300,415_308",
   "403=413_301 407=406_308 40C=41A_301,418_300,423_306 419=418_306 439=438_306",
   "450=435_300,435_308 453=433_301 457=456_308 45C=43A_301,438_300,443_306",
   "476=474_30F,475_30F 4C1=416_306,436_306 4D0=410_306,430_306,410_308,430_308",
   "4D6=415_306,435_306 4DA=4D8_308,4D9_308,416_308,436_308,417_308,437_308",
   "4E2=418_304,438_304,418_308,438_308,41E_308,43E_308",
   "4EA=4E8_308,4E9_308,42D_308,44D_308,423_304,443_304,423_308",
   "4F1=443_308,423_30B,443_30B,427_308,447_308 4F8=42B_308,44B_308",
   "622=627_653,627_654,648_654,627_655,64A_654 6C0=6D5_654 6C2=6C1_654 6D3=6D2_654",
   "929=928_93C 931=930_93C 934=933_93C 9CB=9C7_9BE,9C7_9D7 B48=B47_B56 B4B=B47_B3E,B47_B57",
   "B94=B92_BD7 BCA=BC6_BBE,BC7_BBE,BC6_BD7 C48=C46_C56 CC0=CBF_CD5 CC7=CC6_CD5,CC6_CD6",
   "CCA=CC6_CC2,CCA_CD5 D4A=D46_D3E,D47_D3E,D46_D57 DDA=DD9_DCA DDC=DD9_DCF,DDC_DCA,DD9_DDF",
   "1026=1025_102E 1B06=1B05_1B35 1B08=1B07_1B35 1B0A=1B09_1B35 1B0C=1B0B_1B35 1B0E=1B0D_1B35",
   "1B12=1B11_1B35 1B3B=1B3A_1B35 1B3D=1B3C_1B35 1B40=1B3E_1B35,1B3F_1B35 1B43=1B42_1B35",
   "1E00=41_325,61_325,42_307,62_307,42_323,62_323,42_331,62_331",
   "1E08=C7_301,E7_301,44_307,64_307,44_323,64_323,44_331,64_331",
   "1E10=44_327,64_327,44_32D,64_32D,112_300,113_300,112_301",
   "1E17=113_301,45_32D,65_32D,45_330,65_330,228_306,229_306",
   "1E1E=46_307,66_307,47_304,67_304,48_307,68_307,48_323,68_323",
   "1E26=48_308,68_308,48_327,68_327,48_32E,68_32E,49_330,69_330",
   "1E2E=CF_301,EF_301,4B_301,6B_301,4B_323,6B_323,4B_331,6B_331",
   "1E36=4C_323,6C_323,1E36_304,1E37_304,4C_331,6C_331,4C_32D",
   "1E3D=6C_32D,4D_301,6D_301,4D_307,6D_307,4D_323,6D_323,4E_307",
   "1E45=6E_307,4E_323,6E_323,4E_331,6E_331,4E_32D,6E_32D,D5_301",
   "1E4D=F5_301,D5_308,F5_308,14C_300,14D_300,14C_301,14D_301",
   "1E54=50_301,70_301,50_307,70_307,52_307,72_307,52_323,72_323",
   "1E5C=1E5A_304,1E5B_304,52_331,72_331,53_307,73_307,53_323",
   "1E63=73_323,15A_307,15B_307,160_307,161_307,1E62_307",
   "1E69=1E63_307,54_307,74_307,54_323,74_323,54_331,74_331",
   "1E70=54_32D,74_32D,55_324,75_324,55_330,75_330,55_32D,75_32D",
   "1E78=168_301,169_301,16A_308,16B_308,56_303,76_303,56_323",
   "1E7F=76_323,57_300,77_300,57_301,77_301,57_308,77_308,57_307",
   "1E87=77_307,57_323,77_323,58_307,78_307,58_308,78_308,59_307",
   "1E8F=79_307,5A_302,7A_302,5A_323,7A_323,5A_331,7A_331,68_331 1E97=74_308,77_30A,79_30A",
   "1E9B=17F_307 1EA0=41_323,61_323,41_309,61_309,C2_301,E2_301,C2_300,E2_300",
   "1EA8=C2_309,E2_309,C2_303,E2_303,1EA0_302,1EA1_302,102_301",
   "1EAF=103_301,102_300,103_300,102_309,103_309,102_303,103_303",
   "1EB6=1EA0_306,1EA1_306,45_323,65_323,45_309,65_309,45_303",
   "1EBD=65_303,CA_301,EA_301,CA_300,EA_300,CA_309,EA_309,CA_303",
   "1EC5=EA_303,1EB8_302,1EB9_302,49_309,69_309,49_323,69_323",
   "1ECC=4F_323,6F_323,4F_309,6F_309,D4_301,F4_301,D4_300,F4_300",
   "1ED4=D4_309,F4_309,D4_303,F4_303,1ECC_302,1ECD_302,1A0_301",
   "1EDB=1A1_301,1A0_300,1A1_300,1A0_309,1A1_309,1A0_303,1A1_303",
   "1EE2=1A0_323,1A1_323,55_323,75_323,55_309,75_309,1AF_301",
   "1EE9=1B0_301,1AF_300,1B0_300,1AF_309,1B0_309,1AF_303,1B0_303",
   "1EF0=1AF_323,1B0_323,59_300,79_300,59_323,79_323,59_309 1EF7=79_309,59_303,79_303",
   "1F00=3B1_313,3B1_314,1F00_300,1F01_300,1F00_301,1F01_301",
   "1F06=1F00_342,1F01_342,391_313,391_314,1F08_300,1F09_300",
   "1F0C=1F08_301,1F09_301,1F08_342,1F09_342,3B5_313,3B5_314",
   "1F12=1F10_300,1F11_300,1F10_301,1F11_301",
   "1F18=395_313,395_314,1F18_300,1F19_300,1F18_301,1F19_301",
   "1F20=3B7_313,3B7_314,1F20_300,1F21_300,1F20_301,1F21_301",
   "1F26=1F20_342,1F21_342,397_313,397_314,1F28_300,1F29_300",
   "1F2C=1F28_301,1F29_301,1F28_342,1F29_342,3B9_313,3B9_314",
   "1F32=1F30_300,1F31_300,1F30_301,1F31_301,1F30_342,1F31_342",
   "1F38=399_313,399_314,1F38_300,1F39_300,1F38_301,1F39_301",
   "1F3E=1F38_342,1F39_342,3BF_313,3BF_314,1F40_300,1F41_300 1F44=1F40_301,1F41_301",
   "1F48=39F_313,39F_314,1F48_300,1F49_300,1F48_301,1F49_301",
   "1F50=3C5_313,3C5_314,1F50_300,1F51_300,1F50_301,1F51_301 1F56=1F50_342,1F51_342",
   "1F59=3A5_314 1F5B=1F59_300 1F5D=1F59_301",
   "1F5F=1F59_342,3C9_313,3C9_314,1F60_300,1F61_300,1F60_301",
   "1F65=1F61_301,1F60_342,1F61_342,3A9_313,3A9_314,1F68_300",
   "1F6B=1F69_300,1F68_301,1F69_301,1F68_342,1F69_342,3B1_300 1F72=3B5_300 1F74=3B7_300",
   "1F76=3B9_300 1F78=3BF_300 1F7A=3C5_300 1F7C=3C9_300",
   "1F80=1F00_345,1F01_345,1F02_345,1F03_345,1F04_345,1F05_345",
   "1F86=1F06_345,1F07_345,1F08_345,1F09_345,1F0A_345,1F0B_345",
   "1F8C=1F0C_345,1F0D_345,1F0E_345,1F0F_345,1F20_345,1F21_345",
   "1F92=1F22_345,1F23_345,1F24_345,1F25_345,1F26_345,1F27_345",
   "1F98=1F28_345,1F29_345,1F2A_345,1F2B_345,1F2C_345,1F2D_345",
   "1F9E=1F2E_345,1F2F_345,1F60_345,1F61_345,1F62_345,1F63_345",
   "1FA4=1F64_345,1F65_345,1F66_345,1F67_345,1F68_345,1F69_345",
   "1FAA=1F6A_345,1F6B_345,1F6C_345,1F6D_345,1F6E_345,1F6F_345",
   "1FB0=3B1_306,3B1_304,1F70_345,3B1_345,3AC_345",
   "1FB6=3B1_342,1FB6_345,391_306,391_304,391_300 1FBC=391_345",
   "1FC1=A8_342,1F74_345,3B7_345,3AE_345 1FC6=3B7_342,1FC6_345,395_300 1FCA=397_300",
   "1FCC=397_345,1FBF_300,1FBF_301,1FBF_342,3B9_306,3B9_304 1FD2=3CA_300",
   "1FD6=3B9_342,3CA_342,399_306,399_304,399_300",
   "1FDD=1FFE_300,1FFE_301,1FFE_342,3C5_306,3C5_304,3CB_300",
   "1FE4=3C1_313,3C1_314,3C5_342,3CB_342,3A5_306,3A5_304,3A5_300 1FEC=3A1_314,A8_300",
   "1FF2=1F7C_345,3C9_345,3CE_345 1FF6=3C9_342,1FF6_345,39F_300 1FFA=3A9_300 1FFC=3A9_345",
   "219A=2190_338,2192_338 21AE=2194_338 21CD=21D0_338,21D4_338,21D2_338 2204=2203_338",
   "2209=2208_338 220C=220B_338 2224=2223_338 2226=2225_338 2241=223C_338 2244=2243_338",
   "2247=2245_338 2249=2248_338 2260=3D_338 2262=2261_338",
   "226D=224D_338,3C_338,3E_338,2264_338,2265_338 2274=2272_338,2273_338",
   "2278=2276_338,2277_338 2280=227A_338,227B_338 2284=2282_338,2283_338",
   "2288=2286_338,2287_338 22AC=22A2_338,22A8_338,22A9_338,22AB_338",
   "22E0=227C_338,227D_338,2291_338,2292_338 22EA=22B2_338,22B3_338,22B4_338,22B5_338",
   "304C=304B_3099 304E=304D_3099 3050=304F_3099 3052=3051_3099 3054=3053_3099 3056=3055_3099",
   "3058=3057_3099 305A=3059_3099 305C=305B_3099 305E=305D_3099 3060=305F_3099 3062=3061_3099",
   "3065=3064_3099 3067=3066_3099 3069=3068_3099 3070=306F_3099,306F_309A",
   "3073=3072_3099,3072_309A 3076=3075_3099,3075_309A 3079=3078_3099,3078_309A",
   "307C=307B_3099,307B_309A 3094=3046_3099 309E=309D_3099 30AC=30AB_3099 30AE=30AD_3099",
   "30B0=30AF_3099 30B2=30B1_3099 30B4=30B3_3099 30B6=30B5_3099 30B8=30B7_3099 30BA=30B9_3099",
   "30BC=30BB_3099 30BE=30BD_3099 30C0=30BF_3099 30C2=30C1_3099 30C5=30C4_3099 30C7=30C6_3099",
   "30C9=30C8_3099 30D0=30CF_3099,30CF_309A 30D3=30D2_3099,30D2_309A 30D6=30D5_3099,30D5_309A",
   "30D9=30D8_3099,30D8_309A 30DC=30DB_3099,30DB_309A 30F4=30A6_3099",
   "30F7=30EF_3099,30F0_3099,30F1_3099,30F2_3099 30FE=30FD_3099 105C9=105D2_307",
   "105E4=105DA_307 1109A=11099_110BA 1109C=1109B_110BA 110AB=110A5_110BA",
   "1112E=11131_11127,11132_11127 1134B=11347_1133E,11347_11357 11383=11382_113C9",
   "11385=11384_113BB 1138E=1138B_113C2 11391=11390_113C9 113C5=113C2_113C2",
   "113C7=113C2_113B8,113C2_113C9 114BB=114B9_114BA,114B9_114B0 114BE=114B9_114BD",
   "115BA=115B8_115AF,115B9_115AF 11938=11935_11930",
   "16121=1611E_1611E,1611E_16129,1611E_1611F,16129_1611F",
   "16125=1611E_16120,16121_1611F,16122_1611F,16121_16120",
   "16D68=16D67_16D67,16D63_16D67,16D69_16D67"]

def marks : List String :=
  ["300-36F 483-489 591-5BD 5BF 5C1-5C2 5C4-5C5 5C7 610-61A 64B-65F 670 6D6-6DC 6DF-6E4",
   "6E7-6E8 6EA-6ED 711 730-74A 7A6-7B0 7EB-7F3 7FD 816-819 81B-823 825-827 829-82D 859-85B",
   "897-89F 8CA-903 93A-93C 93E-94F 951-957 962-963 981-983 9BC 9BE-9CD 9D7 9E2-9E3 9FE-A03",
   "A3C-A51 A70-A71 A75 A81-A83 ABC ABE-ACD AE2-AE3 AFA-B03 B3C B3E-B57 B62-B63 B82 BBE-BCD",
   "BD7 C00-C04 C3C C3E-C56 C62-C63 C81-C83 CBC CBE-CD6 CE2-CE3 CF3-D03 D3B-D3C D3E-D4D D57",
   "D62-D63 D81-D83 DCA-DDF DF2-DF3 E31 E34-E3A E47-E4E EB1 EB4-EBC EC8-ECE F18-F19 F35 F37",
   "F39 F3E-F3F F71-F84 F86-F87 F8D-FBC FC6 102B-103E 1056-1059 105E-1060 1062-1064 1067-106D",
   "1071-1074 1082-108D 108F 109A-109D 135D-135F 1712-1715 1732-1734 1752-1753 1772-1773",
   "17B4-17D3 17DD 180B-180F 1885-1886 18A9 1920-193B 1A17-1A1B 1A55-1A7F 1AB0-1B04 1B34-1B44",
   "1B6B-1B73 1B80-1B82 1BA1-1BAD 1BE6-1BF3 1C24-1C37 1CD0-1CD2 1CD4-1CE8 1CED 1CF4 1CF7-1CF9",
   "1DC0-1DFF 20D0-20F0 2CEF-2CF1 2D7F 2DE0-2DFF 302A-302F 3099-309A A66F-A672 A674-A67D",
   "A69E-A69F A6F0-A6F1 A802 A806 A80B A823-A827 A82C A880-A881 A8B4-A8C5 A8E0-A8F1 A8FF",
   "A926-A92D A947-A953 A980-A983 A9B3-A9C0 A9E5 AA29-AA36 AA43 AA4C-AA4D AA7B-AA7D AAB0",
   "AAB2-AAB4 AAB7-AAB8 AABE-AABF AAC1 AAEB-AAEF AAF5-AAF6 ABE3-ABEA ABEC-ABED FB1E FE00-FE2F",
   "101FD 102E0 10376-1037A 10A01-10A0F 10A38-10A3F 10AE5-10AE6 10D24-10D27 10D69-10D6D",
   "10EAB-10EAC 10EFA-10EFF 10F46-10F50 10F82-10F85 11000-11002 11038-11046 11070 11073-11074",
   "1107F-11082 110B0-110BA 110C2 11100-11102 11127-11134 11145-11146 11173 11180-11182",
   "111B3-111C0 111C9-111CC 111CE-111CF 1122C-11237 1123E 11241 112DF-112EA 11300-11303",
   "1133B-1133C 1133E-1134D 11357 11362-11374 113B8-113D0 113D2 113E1-113E2 11435-11446 1145E",
   "114B0-114C3 115AF-115C0 115DC-115DD 11630-11640 116AB-116B7 1171D-1172B 1182C-1183A",
   "11930-1193E 11940 11942-11943 119D1-119E0 119E4 11A01-11A0A 11A33-11A39 11A3B-11A3E 11A47",
   "11A51-11A5B 11A8A-11A99 11B60-11B67 11C2F-11C3F 11C92-11CB6 11D31-11D45 11D47 11D8A-11D97",
   "11EF3-11EF6 11F00-11F01 11F03 11F34-11F42 11F5A 13440 13447-13455 1611E-1612F 16AF0-16AF4",
   "16B30-16B36 16F4F 16F51-16F92 16FE4-16FF1 1BC9D-1BC9E 1CF00-1CF46 1D165-1D169 1D16D-1D182",
   "1D185-1D18B 1D1AA-1D1AD 1D242-1D244 1DA00-1DA36 1DA3B-1DA6C 1DA75 1DA84 1DA9B-1DAAF",
   "1E000-1E08F 1E130-1E136 1E2AE 1E2EC-1E2EF 1E4EC-1E4EF 1E5EE-1E5EF 1E6E3 1E6E6 1E6EE-1E6EF",
   "1E6F5 1E8D0-1E8D6 1E944-1E94A E0100-E01EF"]

end LintBridge.Domain.MarkTable

/-!
## Letters and their marks

A letter with marks is written with as few characters as it can be: its marks are put in
the order of their places, and a letter and a mark become the one character that they
compose, if there is one.  The syllables of Hangul are composed by counting.
-/

namespace LintBridge.Domain

namespace Mark

def places : Text.CodeTable.Numbers :=
  Text.CodeTable.numbers MarkTable.places

def compositions : Text.CodeTable.Texts :=
  Text.CodeTable.texts MarkTable.compositions

/-- Each composed character behind its two parts. -/
def pairs : List (List Char × Char) :=
  compositions.flatMap fun run =>
    run.2.zipIdx.map fun entry => (entry.1, Char.ofNat (run.1 + entry.2))

def kinds : Text.CodeTable.Ranges :=
  Text.CodeTable.ranges MarkTable.marks

/-- The place of a character at the one before it; zero where it stands alone. -/
def place (c : Char) : Nat :=
  (places.get? c).getD 0

/-! ## Syllables -/

def firstLead : Nat :=
  0x1100

def firstVowel : Nat :=
  0x1161

/-- One before the first character that closes a syllable. -/
def noTail : Nat :=
  0x11A7

def firstSyllable : Nat :=
  0xAC00

def syllables : Nat :=
  11172

def syllableParts? (c : Char) : Option (List Char) :=
  let n := c.toNat - firstSyllable
  if firstSyllable ≤ c.toNat && n < syllables then
    let tail := n % 28
    some
      ([Char.ofNat (firstLead + n / 588), Char.ofNat (firstVowel + n / 28 % 21)]
        ++ if tail = 0 then [] else [Char.ofNat (noTail + tail)])
  else none

def syllable? (a b : Char) : Option Char :=
  let lead := a.toNat - firstLead
  let vowel := b.toNat - firstVowel
  let opened := a.toNat - firstSyllable
  let tail := b.toNat - noTail
  if firstLead ≤ a.toNat && lead < 19 && firstVowel ≤ b.toNat && vowel < 21 then
    some (Char.ofNat (firstSyllable + (lead * 21 + vowel) * 28))
  else if firstSyllable ≤ a.toNat && opened < syllables && opened % 28 = 0
      && noTail < b.toNat && tail < 28 then
    some (Char.ofNat (a.toNat + tail))
  else none

/-! ## Parts -/

/-- A character taken apart, so many times at most. -/
def partsWithin : Nat → Char → List Char
  | 0, c => [c]
  | depth + 1, c =>
      match syllableParts? c with
      | some parts => parts
      | none =>
          match compositions.get? c with
          | some (first :: rest) => partsWithin depth first ++ rest
          | _ => [c]

/-- A character taken apart as far as it goes: no letter has more than three marks. -/
def parts (c : Char) : List Char :=
  if c.toNat < 0x80 then [c] else partsWithin 4 c

/-! ## Order -/

/-- Puts a mark before those of a higher place. -/
def insertMark (mark : Char) : List Char → List Char
  | [] => [mark]
  | c :: rest =>
      if place mark < place c then mark :: c :: rest
      else c :: insertMark mark rest

/-- The marks of each letter in the order of their places, behind marks that are in
order already. -/
def arrange : List Char → List Char → List Char
  | marks, [] => marks
  | marks, c :: rest =>
      if place c = 0 then marks ++ c :: arrange [] rest
      else arrange (insertMark c marks) rest

/-! ## Composition -/

def compose? (a b : Char) : Option Char :=
  (syllable? a b).or ((pairs.find? fun entry => entry.1 = [a, b]).map (·.2))

/-- Composes a letter with the marks behind it, where some marks are left already.  A mark
behind one of the same place is not reached. -/
def composeFrom (letter : Char) (left : List Char) : List Char → List Char
  | [] => letter :: left
  | c :: rest =>
      let isReached : Bool :=
        match left.getLast? with
        | some mark => place mark < place c
        | none => true
      match if isReached then compose? letter c else none with
      | some composed => composeFrom composed left rest
      | none =>
          if place c = 0 then letter :: left ++ composeFrom c [] rest
          else composeFrom letter (left ++ [c]) rest

def composed (text : List Char) : List Char :=
  match arrange [] (text.flatMap parts) with
  | [] => []
  | first :: rest => composeFrom first [] rest

end Mark

def isMark (c : Char) : Bool :=
  Mark.kinds.holds c

end LintBridge.Domain
