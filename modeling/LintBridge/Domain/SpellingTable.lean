/-!
# Table of spellings

How the characters of a domain name are spelled.  The entries are in increasing
order; see `LintBridge.Text.CodeTable`.
-/

set_option autoImplicit false

namespace LintBridge.Domain.SpellingTable

/-- The characters that no name may have, unless they have a spelling or are left out. -/
def refused : List String :=
  ["80-A0 A8 AF B4 B8 2D8-2DD 378-37A 380-38D 3A2 530-558 58B-58C 590 5C8-5CF 5EB-5EE 5F5-605",
   "61C 6DD 70E-70F 74B-74C 7B2-7BF 7FB-7FC 82E-82F 83F 85C-85D 85F 86B-86F 890-896 8E2 984",
   "98D-98E 991-992 9A9 9B1 9B3-9B5 9BA-9BB 9C5-9C6 9C9-9CA 9CF-9D6 9D8-9DE 9E4-9E5 9FF-A00",
   "A04 A0B-A0E A11-A12 A29 A31 A34 A37 A3A-A3B A3D A43-A46 A49-A4A A4E-A50 A52-A58 A5D-A65",
   "A77-A80 A84 A8E A92 AA9 AB1 AB4 ABA-ABB AC6 ACA ACE-ACF AD1-ADF AE4-AE5 AF2-AF8 B00 B04",
   "B0D-B0E B11-B12 B29 B31 B34 B3A-B3B B45-B46 B49-B4A B4E-B54 B58-B5E B64-B65 B78-B81 B84",
   "B8B-B8D B91 B96-B98 B9B B9D BA0-BA2 BA5-BA7 BAB-BAD BBA-BBD BC3-BC5 BC9 BCE-BCF BD1-BD6",
   "BD8-BE5 BFB-BFF C0D C11 C29 C3A-C3B C45 C49 C4E-C54 C57 C5B C5E-C5F C64-C65 C70-C76 C8D",
   "C91 CA9 CB4 CBA-CBB CC5 CC9 CCE-CD4 CD7-CDB CDF CE4-CE5 CF0 CF4-CFF D0D D11 D45 D49",
   "D50-D53 D64-D65 D80 D84 D97-D99 DB2 DBC DBE-DBF DC7-DC9 DCB-DCE DD5 DD7 DE0-DE5 DF0-DF1",
   "DF5-E00 E3B-E3E E5C-E80 E83 E85 E8B EA4 EA6 EBE-EBF EC5 EC7 ECF EDA-EDB EE0-EFF F48",
   "F6D-F70 F98 FBD FCD FDB-FFF 10C6-10CF 1249 124E-124F 1257 1259 125E-125F 1289 128E-128F",
   "12B1 12B6-12B7 12BF 12C1 12C6-12C7 12D7 1311 1316-1317 135B-135C 137D-137F 139A-139F",
   "13F6-13FF 1680 169D-169F 16F9-16FF 1716-171E 1737-173F 1754-175F 176D 1771 1774-177F",
   "17DE-17DF 17EA-17EF 17FA-17FF 181A-181F 1879-187F 18AB-18AF 18F6-18FF 191F 192C-192F",
   "193C-193F 1941-1943 196E-196F 1975-197F 19AC-19AF 19CA-19CF 19DB-19DD 1A1C-1A1D 1A5F",
   "1A7D-1A7E 1A8A-1A8F 1A9A-1A9F 1AAE-1AAF 1ADE-1ADF 1AEC-1AFF 1B4D 1BF4-1BFB 1C38-1C3A",
   "1C4A-1C4C 1C8B-1CBC 1CC8-1CCF 1CFB-1CFF 1F16-1F1F 1F46-1F4F 1F58-1F5E 1F7E-1F7F 1FB5",
   "1FBD-1FC5 1FCD-1FCF 1FD4-1FD5 1FDC-1FDF 1FED-1FF5 1FFD-200A 200E-200F 2017 2024-2026",
   "2028-202F 203E 2047-2049 205F-209F 20C2-20CF 20F1-2101 2105-2106 218C-218F 242A-243F",
   "244B-249B 2A74 2B74-2B75 2CF4-2CF8 2D26 2D28-2D2C 2D2E-2D2F 2D68-2D6E 2D71-2D7E 2D97-2D9F",
   "2DA7 2DAF 2DB7 2DBF 2DC7 2DCF 2DD7 2DDF 2E5E-2E7F 2E9A 2EF4-3000 3040 3097-3098 309B-309C",
   "3100-3104 3130-318F 31E6-31EF 321F 33C2-33D8 A48D-A48F A4C7-A4CF A62C-A63F A6F8-A6FF",
   "A7DD-A7F0 A82D-A82F A83A-A83F A878-A87F A8C6-A8CD A8DA-A8DF A954-A95E A97D-A97F A9CE",
   "A9DA-A9DD A9FF AA37-AA3F AA4E-AA4F AA5A-AA5B AAC3-AADA AAF7-AB00 AB07-AB08 AB0F-AB10",
   "AB17-AB1F AB27 AB2F AB6C-AB6F ABEE-ABEF ABFA-ABFF D7A4-D7AF D7C7-D7CA D7FC-F8FF FA6E-FB1C",
   "FB37-FB45 FC5E-FC63 FDD0-FDFB FE12-FE1F FE30 FE47-FE72 FE74-FFFF 1000C 10027 1003B 1003E",
   "1004E-1004F 1005E-1007F 100FB-100FF 10103-10106 10134-10136 1018F 1019D-1019F 101A1-101CF",
   "101FE-1027F 1029D-1029F 102D1-102DF 102FC-102FF 10324-1032C 1034B-1034F 1037B-1037F 1039E",
   "103C4-103C7 103D6-103FF 1049E-1049F 104AA-104D7 104FC-104FF 10528-1052F 10564-1056E",
   "1057B-10596 105A2 105B2 105BA 105BD-105BF 105F4-105FF 10737-1073F 10756-1075F 10768-1077F",
   "10786-107FF 10806-10807 10809 10836 10839-1083B 1083D-1083E 10856 1089F-108A6 108B0-108DF",
   "108F3 108F6-108FA 1091C-1091E 1093A-1093E 1095A-1097F 109B8-109BB 109D0-109D1 10A04",
   "10A07-10A0B 10A14 10A18 10A36-10A37 10A3B-10A3E 10A49-10A4F 10A59-10A5F 10AA0-10ABF",
   "10AE7-10AEA 10AF7-10AFF 10B36-10B38 10B56-10B57 10B73-10B77 10B92-10B98 10B9D-10BA8",
   "10BB0-10BFF 10C49-10CBF 10CF3-10CF9 10D28-10D2F 10D3A-10D3F 10D66-10D68 10D86-10D8D",
   "10D90-10E5F 10E7F 10EAA 10EAE-10EAF 10EB2-10EC1 10EC8-10ECF 10ED9-10EF9 10F28-10F2F",
   "10F5A-10F6F 10F8A-10FAF 10FCC-10FDF 10FF7-10FFF 1104E-11051 11076-1107E 110BD 110C3-110CF",
   "110E9-110EF 110FA-110FF 11135 11148-1114F 11177-1117F 111E0 111F5-111FF 11212 11242-1127F",
   "11287 11289 1128E 1129E 112AA-112AF 112EB-112EF 112FA-112FF 11304 1130D-1130E 11311-11312",
   "11329 11331 11334 1133A 11345-11346 11349-1134A 1134E-1134F 11351-11356 11358-1135C",
   "11364-11365 1136D-1136F 11375-1137F 1138A 1138C-1138D 1138F 113B6 113C1 113C3-113C4 113C6",
   "113CB 113D6 113D9-113E0 113E3-113FF 1145C 11462-1147F 114C8-114CF 114DA-1157F 115B6-115B7",
   "115DE-115FF 11645-1164F 1165A-1165F 1166D-1167F 116BA-116BF 116CA-116CF 116E4-116FF",
   "1171B-1171C 1172C-1172F 11747-117FF 1183C-1189F 118F3-118FE 11907-11908 1190A-1190B 11914",
   "11917 11936 11939-1193A 11947-1194F 1195A-1199F 119A8-119A9 119D8-119D9 119E5-119FF",
   "11A48-11A4F 11AA3-11AAF 11AF9-11AFF 11B0A-11B5F 11B68-11BBF 11BE2-11BEF 11BFA-11BFF 11C09",
   "11C37 11C46-11C4F 11C6D-11C6F 11C90-11C91 11CA8 11CB7-11CFF 11D07 11D0A 11D37-11D39 11D3B",
   "11D3E 11D48-11D4F 11D5A-11D5F 11D66 11D69 11D8F 11D92 11D99-11D9F 11DAA-11DAF 11DDC-11DDF",
   "11DEA-11EDF 11EF9-11EFF 11F11 11F3B-11F3D 11F5B-11FAF 11FB1-11FBF 11FF2-11FFE 1239A-123FF",
   "1246F 12475-1247F 12544-12F8F 12FF3-12FFF 13430-1343F 13456-1345F 143FB-143FF 14647-160FF",
   "1613A-167FF 16A39-16A3F 16A5F 16A6A-16A6D 16ABF 16ACA-16ACF 16AEE-16AEF 16AF6-16AFF",
   "16B46-16B4F 16B5A 16B62 16B78-16B7C 16B90-16D3F 16D7A-16E3F 16E9B-16EBA 16ED4-16EFF",
   "16F4B-16F4E 16F88-16F8E 16FA0-16FDF 16FE5-16FEF 16FF7-16FFF 18CD6-18CFE 18D1F-18D7F",
   "18DF3-1AFEF 1AFF4 1AFFC 1AFFF 1B123-1B131 1B133-1B14F 1B153-1B154 1B156-1B163 1B168-1B16F",
   "1B2FC-1BBFF 1BC6B-1BC6F 1BC7D-1BC7F 1BC89-1BC8F 1BC9A-1BC9B 1BCA4-1CBFF 1CCFD-1CCFF",
   "1CEB4-1CEB9 1CED1-1CEDF 1CEF1-1CEFF 1CF2E-1CF2F 1CF47-1CF4F 1CFC4-1CFFF 1D0F6-1D0FF",
   "1D127-1D128 1D1EB-1D1FF 1D246-1D2BF 1D2D4-1D2DF 1D2F4-1D2FF 1D357-1D35F 1D379-1D7CD",
   "1DA8C-1DA9A 1DAA0 1DAB0-1DEFF 1DF1F-1DF24 1DF2B-1DFFF 1E007 1E019-1E01A 1E022 1E025",
   "1E02B-1E08E 1E090-1E0FF 1E12D-1E12F 1E13E-1E13F 1E14A-1E14D 1E150-1E28F 1E2AF-1E2BF",
   "1E2FA-1E2FE 1E300-1E4CF 1E4FA-1E5CF 1E5FB-1E5FE 1E600-1E6BF 1E6DF 1E6F6-1E6FD 1E700-1E7DF",
   "1E7E7 1E7EC 1E7EF 1E7FF 1E8C5-1E8C6 1E8D7-1E8FF 1E94C-1E94F 1E95A-1E95D 1E960-1EC70",
   "1ECB5-1ED00 1ED3E-1EEEF 1EEF2-1EFFF 1F02C-1F02F 1F094-1F09F 1F0AF-1F0B0 1F0C0 1F0D0",
   "1F0F6-1F100 1F1AE-1F1E5 1F203-1F25F 1F266-1F2FF 1F6D9-1F6DB 1F6ED-1F6EF 1F6FD-1F6FF",
   "1F7DA-1F7DF 1F7EC-1F7EF 1F7F1-1F7FF 1F80C-1F80F 1F848-1F84F 1F85A-1F85F 1F888-1F88F",
   "1F8AE-1F8AF 1F8BC-1F8BF 1F8C2-1F8CF 1F8D9-1F8FF 1FA58-1FA5F 1FA6E-1FA6F 1FA7D-1FA7F",
   "1FA8B-1FA8D 1FAC7 1FAC9-1FACC 1FADD-1FADE 1FAEB-1FAEE 1FAF9-1FAFF 1FB93 1FBFB-1FFFF",
   "2A6E0-2A6FF 2B81E-2B81F 2CEAE-2CEAF 2EBE1-2EBEF 2EE5E-2FFFF 3134B-3134F 3347A-10FFFF"]

def dropped : List String :=
  ["AD 34F 115F-1160 17B4-17B5 180B-180F 200B 2060-2064 206A-206F 3164 FE00-FE0F FEFF FFA0",
   "1BCA0-1BCA3 1D173-1D17A E0100-E01EF"]

/-- The letters that are spelled by another letter at a fixed distance. -/
def shifts : List String :=
  ["C0-D6+20 D8-DE+20 100-12E/2+1 141-147/2+1 14A-176/2+1 1CD-1DB/2+1 1DE-1EE/2+1 1F8-21E/2+1",
   "222-232/2+1 246-24E/2+1 391-3A1+20 3A3-3AB+20 3D8-3EE/2+1 400-40F+50 410-42F+20",
   "460-480/2+1 48A-4BE/2+1 4C1-4CD/2+1 4D0-52E/2+1 531-556+30 10A0-10C5+1C60 13F8-13FD-8",
   "1C90-1CBA-BC0 1D31-1D39/2-1CCC 1D34-1D3A/2-1CCC 1DAE-1DB1-1B3C 1E00-1E94/2+1 1EA0-1EFE/2+1",
   "1F08-1F0F-8 1F18-1F1D-8 1F28-1F2F-8 1F38-1F3F-8 1F48-1F4D-8 1F59-1F5F/2-8 1F68-1F6F-8",
   "2074-2079-2040 2080-2089-2050 2096-2099-202B 2135-2138-1B65 2460-2468-242F 24B6-24CF-2455",
   "24D0-24E9-246F 2C00-2C2F+30 2C80-2CE2/2+1 313A-313F-1F8A 3145-314E-203C 314F-3163-1FEE",
   "3178-317C-204D 3269-326D-215B 32E4-32E9-21A 32EE-32F2-210 32F5-32FA-20D 32FB-32FE-20C",
   "A640-A66C/2+1 A680-A69A/2+1 A722-A72E/2+1 A732-A76E/2+1 A77E-A786/2+1 A796-A7A8/2+1",
   "A7B4-A7C2/2+1 A7CC-A7DA/2+1 AB70-ABBF-97D0 FE41-FE44-CE35 FF02-FF18/2-FEE0",
   "FF07-FF0D/2-FEE0 FF11-FF1D/2-FEE0 FF21-FF3A-FEC0 FF3F-FF5B-FEE0 FF85-FF8A-CEBB",
   "FF8F-FF93-CEB1 FF96-FF9B-CEAE FFAA-FFAF-EDFA FFB5-FFBE-EEAC FFC2-FFC7-EE61 FFCA-FFCF-EE63",
   "FFD2-FFD7-EE65 FFE9-FFEC-DE59 10400-10427+28 104B0-104D3+28 10570-10594/2+27",
   "10571-10579/2+27 1057D-10589/2+27 10C80-10CB2+40 10D50-10D65+20 118A0-118BF+20",
   "16E40-16E5F+20 16EA0-16EB8+1B 1CCD6-1CCEF-1CC75 1CCF0-1CCF9-1CCC0 1D400-1D419-1D39F",
   "1D41A-1D433-1D3B9 1D434-1D44D-1D3D3 1D44E-1D466/2-1D3ED 1D457-1D467/2-1D3ED",
   "1D468-1D481-1D407 1D482-1D49B-1D421 1D4A9-1D4AC-1D43B 1D4AE-1D4B5-1D43B 1D4B6-1D4B9-1D455",
   "1D4BB-1D4CF/2-1D455 1D4C6-1D4CE/2-1D455 1D4D0-1D4E9-1D46F 1D4EA-1D503-1D489",
   "1D507-1D50A-1D4A3 1D50D-1D514-1D4A3 1D516-1D51C-1D4A3 1D51E-1D537-1D4BD 1D53B-1D53E-1D4D7",
   "1D540-1D544-1D4D7 1D54A-1D550-1D4D7 1D552-1D56B-1D4F1 1D56C-1D585-1D50B 1D586-1D59F-1D525",
   "1D5A0-1D5B9-1D53F 1D5BA-1D5D3-1D559 1D5D4-1D5ED-1D573 1D5EE-1D607-1D58D 1D608-1D621-1D5A7",
   "1D622-1D63B-1D5C1 1D63C-1D655-1D5DB 1D656-1D66F-1D5F5 1D670-1D689-1D60F 1D68A-1D6A3-1D629",
   "1D6A8-1D6B8-1D2F7 1D6BA-1D6C0-1D2F7 1D6C2-1D6D2-1D311 1D6D4-1D6DA-1D311 1D6E2-1D6F2-1D331",
   "1D6F4-1D6FA-1D331 1D6FC-1D70C-1D34B 1D70E-1D714-1D34B 1D71C-1D72C-1D36B 1D72E-1D734-1D36B",
   "1D736-1D746-1D385 1D748-1D74E-1D385 1D756-1D766-1D3A5 1D768-1D76E-1D3A5 1D770-1D780-1D3BF",
   "1D782-1D788-1D3BF 1D790-1D7A0-1D3DF 1D7A2-1D7A8-1D3DF 1D7AA-1D7BA-1D3F9 1D7BC-1D7C2-1D3F9",
   "1D7CE-1D7D7-1D79E 1D7D8-1D7E1-1D7A8 1D7E2-1D7EB-1D7B2 1D7EC-1D7F5-1D7BC 1D7F6-1D7FF-1D7C6",
   "1E030-1E038-1DC00 1E03C-1E046-1DBFE 1E051-1E059-1DC21 1E05F-1E064-1DC1C 1E900-1E921+22",
   "1EE0A-1EE0D-1E7C7 1EE2A-1EE2D-1E7E7 1F130-1F149-1F0CF 1FBF0-1FBF9-1FBC0"]

def basicSpellings : List String :=
  ["AA=61 B2=32,33 B5=3BC B9=31,6F BC=31_2044_34,31_2044_32,33_2044_34 130=69_307",
   "132=69_6A,69_6A,135 136=137 139=13A 13B=13C 13D=13E 13F=6C_B7,6C_B7 149=2BC_6E 178=FF,17A",
   "17B=17C 17D=17E 17F=73 181=253,183 184=185 186=254,188 189=256,257,18C 18E=1DD,259,25B,192",
   "193=260,263 196=269,268,199 19C=26F,272 19F=275,1A1 1A2=1A3 1A4=1A5 1A6=280,1A8 1A9=283",
   "1AC=1AD 1AE=288,1B0 1B1=28A,28B,1B4 1B5=1B6 1B7=292,1B9 1BC=1BD",
   "1C4=64_17E,64_17E,64_17E,6C_6A,6C_6A,6C_6A,6E_6A,6E_6A,6E_6A 1F1=64_7A,64_7A,64_7A,1F5",
   "1F6=195,1BF 220=19E 23A=2C65,23C 23D=19A,2C66 241=242 243=180,289,28C",
   "2B0=68,266,6A,72,279,27B,281,77,79 2E0=263,6C,73,78,295 340=300,301 343=313,308_301,3B9",
   "370=371 372=373 374=2B9 376=377 37E=3B,3F3 386=3AC,B7,3AD,3AE,3AF 38C=3CC 38E=3CD,3CE",
   "3CF=3D7,3B2,3B8,3C5,3CD,3CB,3C6,3C0 3F0=3BA,3C1,3C3 3F4=3B8,3B5 3F7=3F8 3F9=3C3,3FB",
   "3FD=37B,37C,37D 4C0=4CF 587=565_582 675=627_674,648_674,6C7_674,64A_674",
   "958=915_93C,916_93C,917_93C,91C_93C,921_93C,922_93C,92B_93C 95F=92F_93C",
   "9DC=9A1_9BC,9A2_9BC 9DF=9AF_9BC A33=A32_A3C A36=A38_A3C A59=A16_A3C,A17_A3C,A1C_A3C",
   "A5E=A2B_A3C B5C=B21_B3C,B22_B3C E33=E4D_E32 EB3=ECD_EB2 EDC=EAB_E99,EAB_EA1 F0C=F0B",
   "F43=F42_FB7 F4D=F4C_FB7 F52=F51_FB7 F57=F56_FB7 F5C=F5B_FB7 F69=F40_FB5 F73=F71_F72",
   "F75=F71_F74,FB2_F80,FB2_F71_F80,FB3_F80,FB3_F71_F80 F81=F71_F80 F93=F92_FB7 F9D=F9C_FB7",
   "FA2=FA1_FB7 FA7=FA6_FB7 FAC=FAB_FB7 FB9=F90_FB5"]

def symbolSpellings : List String :=
  ["10C7=2D27 10CD=2D2D 10FC=10DC 1C80=432,434,43E,441,442,442,44A,463,A64B,1C8A",
   "1CBD=10FD,10FE,10FF 1D2C=61,E6,62 1D30=64 1D32=1DD",
   "1D3C=6F,223,70,72,74,75,77,61,250,251,1D02,62,64,65,259,25B 1D4C=25C,67",
   "1D4F=6B,6D,14B,6F,254,1D16,1D17,70,74,75,1D1D,26F,76,1D25",
   "1D5D=3B2,3B3,3B4,3C6,3C7,69,72,75,76,3B2,3B3,3C1,3C6,3C7 1D78=43D",
   "1D9B=252,63,255,F0,25C,66,25F,261,265,268,269,26A,1D7B,29D 1DA9=26D,1D85,29F,271,270",
   "1DB2=278,282,283,1AB,289,28A,1D1C,28B,28C,7A,290,291,292,3B8 1E9A=61_2BE,1E61 1E9E=DF",
   "1F71=3AC 1F73=3AD 1F75=3AE 1F77=3AF 1F79=3CC 1F7B=3CD 1F7D=3CE",
   "1F80=1F00_3B9,1F01_3B9,1F02_3B9,1F03_3B9,1F04_3B9,1F05_3B9",
   "1F86=1F06_3B9,1F07_3B9,1F00_3B9,1F01_3B9,1F02_3B9,1F03_3B9",
   "1F8C=1F04_3B9,1F05_3B9,1F06_3B9,1F07_3B9,1F20_3B9,1F21_3B9",
   "1F92=1F22_3B9,1F23_3B9,1F24_3B9,1F25_3B9,1F26_3B9,1F27_3B9",
   "1F98=1F20_3B9,1F21_3B9,1F22_3B9,1F23_3B9,1F24_3B9,1F25_3B9",
   "1F9E=1F26_3B9,1F27_3B9,1F60_3B9,1F61_3B9,1F62_3B9,1F63_3B9",
   "1FA4=1F64_3B9,1F65_3B9,1F66_3B9,1F67_3B9,1F60_3B9,1F61_3B9",
   "1FAA=1F62_3B9,1F63_3B9,1F64_3B9,1F65_3B9,1F66_3B9,1F67_3B9 1FB2=1F70_3B9,3B1_3B9,3AC_3B9",
   "1FB7=1FB6_3B9,1FB0,1FB1,1F70,3AC,3B1_3B9 1FBE=3B9 1FC2=1F74_3B9,3B7_3B9,3AE_3B9",
   "1FC7=1FC6_3B9,1F72,3AD,1F74,3AE,3B7_3B9 1FD3=390 1FD8=1FD0,1FD1,1F76,3AF 1FE3=3B0",
   "1FE8=1FE0,1FE1,1F7A,3CD,1FE5 1FEF=60 1FF2=1F7C_3B9,3C9_3B9,3CE_3B9",
   "1FF7=1FF6_3B9,1F78,3CC,1F7C,3CE,3C9_3B9 2011=2010 2033=2032_2032,2032_2032_2032",
   "2036=2035_2035,2035_2035_2035 203C=21_21 2057=2032_2032_2032_2032 2070=30,69",
   "207A=2B,2212,3D,28,29,6E 208A=2B,2212,3D,28,29 2090=61,65,6F,78,259,68 209A=70,73,74",
   "20A8=72_73 2102=63,B0_63 2107=25B 2109=B0_66,67,68,68,68,68,127,69,69,6C,6C 2115=6E,6E_6F",
   "2119=70,71,72,72,72 2120=73_6D,74_65_6C,74_6D 2124=7A 2126=3C9 2128=7A 212A=6B,E5,62,63",
   "212F=65,65,66,214E,6D,6F 2139=69 213B=66_61_78,3C0,3B3,3B3,3C0,2211 2145=64,64,65,69,6A",
   "2150=31_2044_37,31_2044_39,31_2044_31_30,31_2044_33",
   "2154=32_2044_33,31_2044_35,32_2044_35,33_2044_35,34_2044_35",
   "2159=31_2044_36,35_2044_36,31_2044_38,33_2044_38,35_2044_38",
   "215E=37_2044_38,31_2044,69,69_69,69_69_69,69_76,76,76_69",
   "2166=76_69_69,76_69_69_69,69_78,78,78_69,78_69_69,6C,63,64",
   "216F=6D,69,69_69,69_69_69,69_76,76,76_69,76_69_69",
   "2177=76_69_69_69,69_78,78,78_69,78_69_69,6C,63,64,6D 2183=2184 2189=30_2044_33",
   "222C=222B_222B,222B_222B_222B 222F=222E_222E,222E_222E_222E 2329=3008,3009",
   "2469=31_30,31_31,31_32,31_33,31_34,31_35,31_36,31_37,31_38",
   "2472=31_39,32_30,28_31_29,28_32_29,28_33_29,28_34_29",
   "2478=28_35_29,28_36_29,28_37_29,28_38_29,28_39_29",
   "247D=28_31_30_29,28_31_31_29,28_31_32_29,28_31_33_29",
   "2481=28_31_34_29,28_31_35_29,28_31_36_29,28_31_37_29",
   "2485=28_31_38_29,28_31_39_29,28_32_30_29",
   "249C=28_61_29,28_62_29,28_63_29,28_64_29,28_65_29,28_66_29",
   "24A2=28_67_29,28_68_29,28_69_29,28_6A_29,28_6B_29,28_6C_29",
   "24A8=28_6D_29,28_6E_29,28_6F_29,28_70_29,28_71_29,28_72_29",
   "24AE=28_73_29,28_74_29,28_75_29,28_76_29,28_77_29,28_78_29 24B4=28_79_29,28_7A_29 24EA=30",
   "2A0C=222B_222B_222B_222B 2A75=3D_3D,3D_3D_3D 2ADC=2ADD_338 2C60=2C61 2C62=26B,1D7D,27D",
   "2C67=2C68 2C69=2C6A 2C6B=2C6C 2C6D=251,271,250,252 2C72=2C73 2C75=2C76 2C7C=6A,76,23F,240",
   "2CEB=2CEC 2CED=2CEE 2CF2=2CF3 2D6F=2D61"]

def squareSpellings : List String :=
  ["2E9F=6BCD 2EF3=9F9F 2F00=4E00,4E28,4E36,4E3F,4E59,4E85,4E8C,4EA0,4EBA,513F,5165",
   "2F0B=516B,5182,5196,51AB,51E0,51F5,5200,529B,52F9,5315,531A",
   "2F16=5338,5341,535C,5369,5382,53B6,53C8,53E3,56D7,571F,58EB",
   "2F21=5902,590A,5915,5927,5973,5B50,5B80,5BF8,5C0F,5C22,5C38",
   "2F2C=5C6E,5C71,5DDB,5DE5,5DF1,5DFE,5E72,5E7A,5E7F,5EF4,5EFE",
   "2F37=5F0B,5F13,5F50,5F61,5F73,5FC3,6208,6236,624B,652F,6534",
   "2F42=6587,6597,65A4,65B9,65E0,65E5,66F0,6708,6728,6B20,6B62",
   "2F4D=6B79,6BB3,6BCB,6BD4,6BDB,6C0F,6C14,6C34,706B,722A,7236",
   "2F58=723B,723F,7247,7259,725B,72AC,7384,7389,74DC,74E6,7518",
   "2F63=751F,7528,7530,758B,7592,7676,767D,76AE,76BF,76EE,77DB",
   "2F6E=77E2,77F3,793A,79B8,79BE,7A74,7ACB,7AF9,7C73,7CF8,7F36",
   "2F79=7F51,7F8A,7FBD,8001,800C,8012,8033,807F,8089,81E3,81EA",
   "2F84=81F3,81FC,820C,821B,821F,826E,8272,8278,864D,866B,8840",
   "2F8F=884C,8863,897E,898B,89D2,8A00,8C37,8C46,8C55,8C78,8C9D",
   "2F9A=8D64,8D70,8DB3,8EAB,8ECA,8F9B,8FB0,8FB5,9091,9149,91C6",
   "2FA5=91CC,91D1,9577,9580,961C,96B6,96B9,96E8,9751,975E,9762",
   "2FB0=9769,97CB,97ED,97F3,9801,98A8,98DB,98DF,9996,9999,99AC",
   "2FBB=9AA8,9AD8,9ADF,9B25,9B2F,9B32,9B3C,9B5A,9CE5,9E75,9E7F",
   "2FC6=9EA5,9EBB,9EC3,9ECD,9ED1,9EF9,9EFD,9F0E,9F13,9F20,9F3B 2FD1=9F4A,9F52,9F8D,9F9C,9FA0",
   "3002=2E 3036=3012 3038=5341,5344,5345 309F=3088_308A 30FF=30B3_30C8",
   "3131=1100,1101,11AA,1102,11AC,11AD,1103,1104,1105 3140=111A,1106,1107,1108,1121",
   "3165=1114,1115,11C7,11C8,11CC,11CE,11D3,11D7,11D9,111C,11DD",
   "3170=11DF,111D,111E,1120,1122,1123,1127,1129",
   "317D=1132,1136,1140,1147,114C,11F1,11F2,1157,1158,1159,1184",
   "3188=1185,1188,1191,1192,1194,119E,11A1",
   "3192=4E00,4E8C,4E09,56DB,4E0A,4E2D,4E0B,7532,4E59,4E19,4E01 319D=5929,5730,4EBA",
   "3200=28_1100_29,28_1102_29,28_1103_29,28_1105_29,28_1106_29",
   "3205=28_1107_29,28_1109_29,28_110B_29,28_110C_29,28_110E_29",
   "320A=28_110F_29,28_1110_29,28_1111_29,28_1112_29,28_AC00_29",
   "320F=28_B098_29,28_B2E4_29,28_B77C_29,28_B9C8_29,28_BC14_29",
   "3214=28_C0AC_29,28_C544_29,28_C790_29,28_CC28_29,28_CE74_29",
   "3219=28_D0C0_29,28_D30C_29,28_D558_29,28_C8FC_29 321D=28_C624_C804_29,28_C624_D6C4_29",
   "3220=28_4E00_29,28_4E8C_29,28_4E09_29,28_56DB_29,28_4E94_29",
   "3225=28_516D_29,28_4E03_29,28_516B_29,28_4E5D_29,28_5341_29",
   "322A=28_6708_29,28_706B_29,28_6C34_29,28_6728_29,28_91D1_29",
   "322F=28_571F_29,28_65E5_29,28_682A_29,28_6709_29,28_793E_29",
   "3234=28_540D_29,28_7279_29,28_8CA1_29,28_795D_29,28_52B4_29",
   "3239=28_4EE3_29,28_547C_29,28_5B66_29,28_76E3_29,28_4F01_29",
   "323E=28_8CC7_29,28_5354_29,28_796D_29,28_4F11_29,28_81EA_29",
   "3243=28_81F3_29,554F,5E7C,6587,7B8F",
   "3250=70_74_65,32_31,32_32,32_33,32_34,32_35,32_36,32_37",
   "3258=32_38,32_39,33_30,33_31,33_32,33_33,33_34,33_35,1100",
   "3261=1102,1103,1105,1106,1107,1109,110B,110C",
   "326E=AC00,B098,B2E4,B77C,B9C8,BC14,C0AC,C544,C790,CC28,CE74",
   "3279=D0C0,D30C,D558,CC38_ACE0,C8FC_C758,C6B0",
   "3280=4E00,4E8C,4E09,56DB,4E94,516D,4E03,516B,4E5D,5341,6708",
   "328B=706B,6C34,6728,91D1,571F,65E5,682A,6709,793E,540D,7279",
   "3296=8CA1,795D,52B4,79D8,7537,5973,9069,512A,5370,6CE8,9805",
   "32A1=4F11,5199,6B63,4E0A,4E2D,4E0B,5DE6,53F3,533B,5B97,5B66",
   "32AC=76E3,4F01,8CC7,5354,591C,33_36,33_37,33_38,33_39,34_30",
   "32B6=34_31,34_32,34_33,34_34,34_35,34_36,34_37,34_38,34_39",
   "32BF=35_30,31_6708,32_6708,33_6708,34_6708,35_6708,36_6708",
   "32C6=37_6708,38_6708,39_6708,31_30_6708,31_31_6708",
   "32CB=31_32_6708,68_67,65_72_67,65_76,6C_74_64,30A2,30A4,30A6",
   "32D3=30A8,30AA,30AB,30AD,30AF,30B1,30B3,30B5,30B7,30B9,30BB",
   "32DE=30BD,30BF,30C1,30C4,30C6,30C8 32EA=30D2,30D5,30D8,30DB 32F3=30E4,30E6",
   "32FF=4EE4_548C,30A2_30D1_30FC_30C8,30A2_30EB_30D5_30A1",
   "3302=30A2_30F3_30DA_30A2,30A2_30FC_30EB,30A4_30CB_30F3_30B0",
   "3305=30A4_30F3_30C1,30A6_30A9_30F3,30A8_30B9_30AF_30FC_30C9",
   "3308=30A8_30FC_30AB_30FC,30AA_30F3_30B9,30AA_30FC_30E0",
   "330B=30AB_30A4_30EA,30AB_30E9_30C3_30C8,30AB_30ED_30EA_30FC",
   "330E=30AC_30ED_30F3,30AC_30F3_30DE,30AE_30AC,30AE_30CB_30FC",
   "3312=30AD_30E5_30EA_30FC,30AE_30EB_30C0_30FC,30AD_30ED",
   "3315=30AD_30ED_30B0_30E9_30E0,30AD_30ED_30E1_30FC_30C8_30EB",
   "3317=30AD_30ED_30EF_30C3_30C8,30B0_30E9_30E0",
   "3319=30B0_30E9_30E0_30C8_30F3,30AF_30EB_30BC_30A4_30ED",
   "331B=30AF_30ED_30FC_30CD,30B1_30FC_30B9,30B3_30EB_30CA",
   "331E=30B3_30FC_30DD,30B5_30A4_30AF_30EB 3320=30B5_30F3_30C1_30FC_30E0,30B7_30EA_30F3_30B0",
   "3322=30BB_30F3_30C1,30BB_30F3_30C8,30C0_30FC_30B9,30C7_30B7",
   "3326=30C9_30EB,30C8_30F3,30CA_30CE,30CE_30C3_30C8",
   "332A=30CF_30A4_30C4,30D1_30FC_30BB_30F3_30C8,30D1_30FC_30C4",
   "332D=30D0_30FC_30EC_30EB,30D4_30A2_30B9_30C8_30EB 332F=30D4_30AF_30EB,30D4_30B3,30D3_30EB",
   "3332=30D5_30A1_30E9_30C3_30C9,30D5_30A3_30FC_30C8",
   "3334=30D6_30C3_30B7_30A7_30EB,30D5_30E9_30F3",
   "3336=30D8_30AF_30BF_30FC_30EB,30DA_30BD,30DA_30CB_30D2",
   "3339=30D8_30EB_30C4,30DA_30F3_30B9,30DA_30FC_30B8",
   "333C=30D9_30FC_30BF,30DD_30A4_30F3_30C8,30DC_30EB_30C8",
   "333F=30DB_30F3,30DD_30F3_30C9,30DB_30FC_30EB,30DB_30FC_30F3",
   "3343=30DE_30A4_30AF_30ED,30DE_30A4_30EB,30DE_30C3_30CF",
   "3346=30DE_30EB_30AF,30DE_30F3_30B7_30E7_30F3",
   "3348=30DF_30AF_30ED_30F3,30DF_30EA,30DF_30EA_30D0_30FC_30EB",
   "334B=30E1_30AC,30E1_30AC_30C8_30F3,30E1_30FC_30C8_30EB",
   "334E=30E4_30FC_30C9,30E4_30FC_30EB,30E6_30A2_30F3",
   "3351=30EA_30C3_30C8_30EB,30EA_30E9,30EB_30D4_30FC",
   "3354=30EB_30FC_30D6_30EB,30EC_30E0,30EC_30F3_30C8_30B2_30F3",
   "3357=30EF_30C3_30C8,30_70B9,31_70B9,32_70B9,33_70B9,34_70B9",
   "335D=35_70B9,36_70B9,37_70B9,38_70B9,39_70B9,31_30_70B9",
   "3363=31_31_70B9,31_32_70B9,31_33_70B9,31_34_70B9,31_35_70B9",
   "3368=31_36_70B9,31_37_70B9,31_38_70B9,31_39_70B9,32_30_70B9",
   "336D=32_31_70B9,32_32_70B9,32_33_70B9,32_34_70B9,68_70_61",
   "3372=64_61,61_75,62_61_72,6F_76,70_63,64_6D,64_6D_32",
   "3379=64_6D_33,69_75,5E73_6210,662D_548C,5927_6B63,660E_6CBB",
   "337F=682A_5F0F_4F1A_793E,70_61,6E_61,3BC_61,6D_61,6B_61",
   "3385=6B_62,6D_62,67_62,63_61_6C,6B_63_61_6C,70_66,6E_66",
   "338C=3BC_66,3BC_67,6D_67,6B_67,68_7A,6B_68_7A,6D_68_7A",
   "3393=67_68_7A,74_68_7A,3BC_6C,6D_6C,64_6C,6B_6C,66_6D,6E_6D",
   "339B=3BC_6D,6D_6D,63_6D,6B_6D,6D_6D_32,63_6D_32,6D_32",
   "33A2=6B_6D_32,6D_6D_33,63_6D_33,6D_33,6B_6D_33,6D_2215_73",
   "33A8=6D_2215_73_32,70_61,6B_70_61,6D_70_61,67_70_61,72_61_64",
   "33AE=72_61_64_2215_73,72_61_64_2215_73_32,70_73,6E_73,3BC_73",
   "33B3=6D_73,70_76,6E_76,3BC_76,6D_76,6B_76,6D_76,70_77,6E_77",
   "33BC=3BC_77,6D_77,6B_77,6D_77,6B_3C9,6D_3C9 33C3=62_71,63_63,63_64,63_2215_6B_67",
   "33C8=64_62,67_79,68_61,68_70,69_6E,6B_6B,6B_6D,6B_74,6C_6D",
   "33D1=6C_6E,6C_6F_67,6C_78,6D_62,6D_69_6C,6D_6F_6C,70_68",
   "33D9=70_70_6D,70_72,73_72,73_76,77_62,76_2215_6D,61_2215_6D",
   "33E0=31_65E5,32_65E5,33_65E5,34_65E5,35_65E5,36_65E5,37_65E5",
   "33E7=38_65E5,39_65E5,31_30_65E5,31_31_65E5,31_32_65E5",
   "33EC=31_33_65E5,31_34_65E5,31_35_65E5,31_36_65E5,31_37_65E5",
   "33F1=31_38_65E5,31_39_65E5,32_30_65E5,32_31_65E5,32_32_65E5",
   "33F6=32_33_65E5,32_34_65E5,32_35_65E5,32_36_65E5,32_37_65E5",
   "33FB=32_38_65E5,32_39_65E5,33_30_65E5,33_31_65E5,67_61_6C A69C=44A,44C A770=A76F A779=A77A",
   "A77B=A77C A77D=1D79 A78B=A78C A78D=265 A790=A791 A792=A793 A7AA=266,25C,261,26C,26A",
   "A7B0=29E,287,29D,AB53 A7C4=A794,282,1D8E,A7C8 A7C9=A7CA A7CB=264 A7DC=19B",
   "A7F1=73,63,66,71,A7F6 A7F8=127,153 AB5C=A727,AB37,26B,AB52 AB69=28D"]

def ideographSpellings : List String :=
  ["F900=8C48,66F4,8ECA,8CC8,6ED1,4E32,53E5,9F9C,9F9C,5951,91D1",
   "F90B=5587,5948,61F6,7669,7F85,863F,87BA,88F8,908F,6A02,6D1B",
   "F916=70D9,73DE,843D,916A,99F1,4E82,5375,6B04,721B,862D,9E1E",
   "F921=5D50,6FEB,85CD,8964,62C9,81D8,881F,5ECA,6717,6D6A,72FC",
   "F92C=90CE,4F86,51B7,52DE,64C4,6AD3,7210,76E7,8001,8606,865C",
   "F937=8DEF,9732,9B6F,9DFA,788C,797F,7DA0,83C9,9304,9E7F,8AD6",
   "F942=58DF,5F04,7C60,807E,7262,78CA,8CC2,96F7,58D8,5C62,6A13",
   "F94D=6DDA,6F0F,7D2F,7E37,964B,52D2,808B,51DC,51CC,7A1C,7DBE",
   "F958=83F1,9675,8B80,62CF,6A02,8AFE,4E39,5BE7,6012,7387,7570",
   "F963=5317,78FB,4FBF,5FA9,4E0D,6CCC,6578,7D22,53C3,585E,7701",
   "F96E=8449,8AAA,6BBA,8FB0,6C88,62FE,82E5,63A0,7565,4EAE,5169",
   "F979=51C9,6881,7CE7,826F,8AD2,91CF,52F5,5442,5973,5EEC,65C5",
   "F984=6FFE,792A,95AD,9A6A,9E97,9ECE,529B,66C6,6B77,8F62,5E74",
   "F98F=6190,6200,649A,6F23,7149,7489,79CA,7DF4,806F,8F26,84EE",
   "F99A=9023,934A,5217,52A3,54BD,70C8,88C2,8AAA,5EC9,5FF5,637B",
   "F9A5=6BAE,7C3E,7375,4EE4,56F9,5BE7,5DBA,601C,73B2,7469,7F9A",
   "F9B0=8046,9234,96F6,9748,9818,4F8B,79AE,91B4,96B8,60E1,4E86",
   "F9BB=50DA,5BEE,5C3F,6599,6A02,71CE,7642,84FC,907C,9F8D,6688",
   "F9C6=962E,5289,677B,67F3,6D41,6E9C,7409,7559,786B,7D10,985E",
   "F9D1=516D,622E,9678,502B,5D19,6DEA,8F2A,5F8B,6144,6817,7387",
   "F9DC=9686,5229,540F,5C65,6613,674E,68A8,6CE5,7406,75E2,7F79",
   "F9E7=88CF,88E1,91CC,96E2,533F,6EBA,541D,71D0,7498,85FA,96A3",
   "F9F2=9C57,9E9F,6797,6DCB,81E8,7ACB,7B20,7C92,72C0,7099,8B58",
   "F9FD=4EC0,8336,523A,5207,5EA6,62D3,7CD6,5B85,6D1E,66B4,8F3B",
   "FA08=884C,964D,898B,5ED3,5140,55C0 FA10=585A FA12=6674",
   "FA15=51DE,732A,76CA,793C,795E,7965,798F,9756,7CBE,7FBD FA20=8612 FA22=8AF8 FA25=9038,90FD",
   "FA2A=98EF,98FC,9928,9DB4,90DE,96B7,4FAE,50E7,514D,52C9,52E4",
   "FA35=5351,559D,5606,5668,5840,58A8,5C64,5C6E,6094,6168,618E",
   "FA40=61F2,654F,65E2,6691,6885,6D77,6E1A,6F22,716E,722B,7422",
   "FA4B=7891,793E,7949,7948,7950,7956,795D,798D,798E,7A40,7A81",
   "FA56=7BC0,7DF4,7E09,7E41,7F72,8005,81ED,8279,8279,8457,8910",
   "FA61=8996,8B01,8B39,8CD3,8D08,8FB6,9038,96E3,97FF,983B,6075 FA6C=242EE,8218",
   "FA70=4E26,51B5,5168,4F80,5145,5180,52C7,52FA,559D,5555,5599",
   "FA7B=55E2,585A,58B3,5944,5954,5A62,5B28,5ED2,5ED9,5F69,5FAD",
   "FA86=60D8,614E,6108,618E,6160,61F2,6234,63C4,641C,6452,6556",
   "FA91=6674,6717,671B,6756,6B79,6BBA,6D41,6EDB,6ECB,6F22,701E",
   "FA9C=716E,77A7,7235,72AF,732A,7471,7506,753B,761D,761F,76CA",
   "FAA7=76DB,76F4,774A,7740,78CC,7AB1,7BC0,7C7B,7D5B,7DF4,7F3E",
   "FAB2=8005,8352,83EF,8779,8941,8986,8996,8ABF,8AF8,8ACB,8B01",
   "FABD=8AFE,8AED,8B39,8B8A,8D08,8F38,9072,9199,9276,967C,96E3",
   "FAC8=9756,97DB,97FF,980B,983B,9B12,9F9C,2284A,22844,233D5",
   "FAD2=3B9D,4018,4039,25249,25CD0,27ED3,9F43,9F8E"]

/-- Ligatures and forms of letters that depend on their place or width. -/
def formSpellings : List String :=
  ["FB00=66_66,66_69,66_6C,66_66_69,66_66_6C,73_74,73_74",
   "FB13=574_576,574_565,574_56B,57E_576,574_56D FB1D=5D9_5B4",
   "FB1F=5F2_5B7,5E2,5D0,5D3,5D4,5DB,5DC,5DD,5E8,5EA,2B,5E9_5C1",
   "FB2B=5E9_5C2,5E9_5BC_5C1,5E9_5BC_5C2,5D0_5B7,5D0_5B8,5D0_5BC",
   "FB31=5D1_5BC,5D2_5BC,5D3_5BC,5D4_5BC,5D5_5BC,5D6_5BC",
   "FB38=5D8_5BC,5D9_5BC,5DA_5BC,5DB_5BC,5DC_5BC FB3E=5DE_5BC FB40=5E0_5BC,5E1_5BC",
   "FB43=5E3_5BC,5E4_5BC FB46=5E6_5BC,5E7_5BC,5E8_5BC,5E9_5BC,5EA_5BC,5D5_5B9,5D1_5BF",
   "FB4D=5DB_5BF,5E4_5BF,5D0_5DC,671,671,67B,67B,67B,67B,67E,67E",
   "FB58=67E,67E,680,680,680,680,67A,67A,67A,67A,67F,67F,67F,67F",
   "FB66=679,679,679,679,6A4,6A4,6A4,6A4,6A6,6A6,6A6,6A6,684,684",
   "FB74=684,684,683,683,683,683,686,686,686,686,687,687,687,687",
   "FB82=68D,68D,68C,68C,68E,68E,688,688,698,698,691,691,6A9,6A9",
   "FB90=6A9,6A9,6AF,6AF,6AF,6AF,6B3,6B3,6B3,6B3,6B1,6B1,6B1,6B1",
   "FB9E=6BA,6BA,6BB,6BB,6BB,6BB,6C0,6C0,6C1,6C1,6C1,6C1,6BE,6BE FBAC=6BE,6BE,6D2,6D2,6D3,6D3",
   "FBD3=6AD,6AD,6AD,6AD,6C7,6C7,6C6,6C6,6C8,6C8,6C7_674,6CB,6CB",
   "FBE0=6C5,6C5,6C9,6C9,6D0,6D0,6D0,6D0,649,649,626_627,626_627",
   "FBEC=626_6D5,626_6D5,626_648,626_648,626_6C7,626_6C7,626_6C6",
   "FBF3=626_6C6,626_6C8,626_6C8,626_6D0,626_6D0,626_6D0,626_649",
   "FBFA=626_649,626_649,6CC,6CC,6CC,6CC,626_62C,626_62D,626_645",
   "FC03=626_649,626_64A,628_62C,628_62D,628_62E,628_645,628_649",
   "FC0A=628_64A,62A_62C,62A_62D,62A_62E,62A_645,62A_649,62A_64A",
   "FC11=62B_62C,62B_645,62B_649,62B_64A,62C_62D,62C_645,62D_62C",
   "FC18=62D_645,62E_62C,62E_62D,62E_645,633_62C,633_62D,633_62E",
   "FC1F=633_645,635_62D,635_645,636_62C,636_62D,636_62E,636_645",
   "FC26=637_62D,637_645,638_645,639_62C,639_645,63A_62C,63A_645",
   "FC2D=641_62C,641_62D,641_62E,641_645,641_649,641_64A,642_62D",
   "FC34=642_645,642_649,642_64A,643_627,643_62C,643_62D,643_62E",
   "FC3B=643_644,643_645,643_649,643_64A,644_62C,644_62D,644_62E",
   "FC42=644_645,644_649,644_64A,645_62C,645_62D,645_62E,645_645",
   "FC49=645_649,645_64A,646_62C,646_62D,646_62E,646_645,646_649",
   "FC50=646_64A,647_62C,647_645,647_649,647_64A,64A_62C,64A_62D",
   "FC57=64A_62E,64A_645,64A_649,64A_64A,630_670,631_670,649_670",
   "FC64=626_631,626_632,626_645,626_646,626_649,626_64A,628_631",
   "FC6B=628_632,628_645,628_646,628_649,628_64A,62A_631,62A_632",
   "FC72=62A_645,62A_646,62A_649,62A_64A,62B_631,62B_632,62B_645",
   "FC79=62B_646,62B_649,62B_64A,641_649,641_64A,642_649,642_64A",
   "FC80=643_627,643_644,643_645,643_649,643_64A,644_645,644_649",
   "FC87=644_64A,645_627,645_645,646_631,646_632,646_645,646_646",
   "FC8E=646_649,646_64A,649_670,64A_631,64A_632,64A_645,64A_646",
   "FC95=64A_649,64A_64A,626_62C,626_62D,626_62E,626_645,626_647",
   "FC9C=628_62C,628_62D,628_62E,628_645,628_647,62A_62C,62A_62D",
   "FCA3=62A_62E,62A_645,62A_647,62B_645,62C_62D,62C_645,62D_62C",
   "FCAA=62D_645,62E_62C,62E_645,633_62C,633_62D,633_62E,633_645",
   "FCB1=635_62D,635_62E,635_645,636_62C,636_62D,636_62E,636_645",
   "FCB8=637_62D,638_645,639_62C,639_645,63A_62C,63A_645,641_62C",
   "FCBF=641_62D,641_62E,641_645,642_62D,642_645,643_62C,643_62D",
   "FCC6=643_62E,643_644,643_645,644_62C,644_62D,644_62E,644_645",
   "FCCD=644_647,645_62C,645_62D,645_62E,645_645,646_62C,646_62D",
   "FCD4=646_62E,646_645,646_647,647_62C,647_645,647_670,64A_62C",
   "FCDB=64A_62D,64A_62E,64A_645,64A_647,626_645,626_647,628_645",
   "FCE2=628_647,62A_645,62A_647,62B_645,62B_647,633_645,633_647",
   "FCE9=634_645,634_647,643_644,643_645,644_645,646_645,646_647",
   "FCF0=64A_645,64A_647,640_64E_651,640_64F_651,640_650_651",
   "FCF5=637_649,637_64A,639_649,639_64A,63A_649,63A_64A,633_649",
   "FCFC=633_64A,634_649,634_64A,62D_649,62D_64A,62C_649,62C_64A",
   "FD03=62E_649,62E_64A,635_649,635_64A,636_649,636_64A,634_62C",
   "FD0A=634_62D,634_62E,634_645,634_631,633_631,635_631,636_631",
   "FD11=637_649,637_64A,639_649,639_64A,63A_649,63A_64A,633_649",
   "FD18=633_64A,634_649,634_64A,62D_649,62D_64A,62C_649,62C_64A",
   "FD1F=62E_649,62E_64A,635_649,635_64A,636_649,636_64A,634_62C",
   "FD26=634_62D,634_62E,634_645,634_631,633_631,635_631,636_631",
   "FD2D=634_62C,634_62D,634_62E,634_645,633_647,634_647,637_645",
   "FD34=633_62C,633_62D,633_62E,634_62C,634_62D,634_62E,637_645 FD3B=638_645,627_64B,627_64B",
   "FD50=62A_62C_645,62A_62D_62C,62A_62D_62C,62A_62D_645",
   "FD54=62A_62E_645,62A_645_62C,62A_645_62D,62A_645_62E",
   "FD58=62C_645_62D,62C_645_62D,62D_645_64A,62D_645_649",
   "FD5C=633_62D_62C,633_62C_62D,633_62C_649,633_645_62D",
   "FD60=633_645_62D,633_645_62C,633_645_645,633_645_645",
   "FD64=635_62D_62D,635_62D_62D,635_645_645,634_62D_645",
   "FD68=634_62D_645,634_62C_64A,634_645_62E,634_645_62E",
   "FD6C=634_645_645,634_645_645,636_62D_649,636_62E_645",
   "FD70=636_62E_645,637_645_62D,637_645_62D,637_645_645",
   "FD74=637_645_64A,639_62C_645,639_645_645,639_645_645",
   "FD78=639_645_649,63A_645_645,63A_645_64A,63A_645_649",
   "FD7C=641_62E_645,641_62E_645,642_645_62D,642_645_645",
   "FD80=644_62D_645,644_62D_64A,644_62D_649,644_62C_62C",
   "FD84=644_62C_62C,644_62E_645,644_62E_645,644_645_62D",
   "FD88=644_645_62D,645_62D_62C,645_62D_645,645_62D_64A",
   "FD8C=645_62C_62D,645_62C_645,645_62E_62C,645_62E_645",
   "FD92=645_62C_62E,647_645_62C,647_645_645,646_62D_645",
   "FD96=646_62D_649,646_62C_645,646_62C_645,646_62C_649",
   "FD9A=646_645_64A,646_645_649,64A_645_645,64A_645_645",
   "FD9E=628_62E_64A,62A_62C_64A,62A_62C_649,62A_62E_64A",
   "FDA2=62A_62E_649,62A_645_64A,62A_645_649,62C_645_64A",
   "FDA6=62C_62D_649,62C_645_649,633_62E_649,635_62D_64A",
   "FDAA=634_62D_64A,636_62D_64A,644_62C_64A,644_645_64A",
   "FDAE=64A_62D_64A,64A_62C_64A,64A_645_64A,645_645_64A",
   "FDB2=642_645_64A,646_62D_64A,642_645_62D,644_62D_645",
   "FDB6=639_645_64A,643_645_64A,646_62C_62D,645_62E_64A",
   "FDBA=644_62C_645,643_645_645,644_62C_645,646_62C_62D",
   "FDBE=62C_62D_64A,62D_62C_64A,645_62C_64A,641_645_64A",
   "FDC2=628_62D_64A,643_645_645,639_62C_645,635_645_645 FDC6=633_62E_64A,646_62C_64A",
   "FDF0=635_644_6D2,642_644_6D2,627_644_644_647,627_643_628_631",
   "FDF4=645_62D_645_62F,635_644_639_645,631_633_648_644",
   "FDF7=639_644_64A_647,648_633_644_645,635_644_649 FDFC=631_6CC_627_644 FE10=2C,3001",
   "FE14=3B,21 FE17=3016,3017 FE31=2014,2013,5F,5F,28,29,7B,7D,3014,3015,3010,3011,300A",
   "FE3E=300B,3008,3009 FE4D=5F,5F,5F,2C,3001 FE54=3B FE57=21,2014,28,29,7B,7D,3014,3015",
   "FE60=26,2A,2B,2D FE66=3D FE69=24 FE71=640_64B FE77=640_64E FE79=640_64F FE7B=640_650",
   "FE7D=640_651 FE7F=640_652,621,622,622,623,623,624,624,625,625,626,626,626",
   "FE8C=626,627,627,628,628,628,628,629,629,62A,62A,62A,62A,62B",
   "FE9A=62B,62B,62B,62C,62C,62C,62C,62D,62D,62D,62D,62E,62E,62E",
   "FEA8=62E,62F,62F,630,630,631,631,632,632,633,633,633,633,634",
   "FEB6=634,634,634,635,635,635,635,636,636,636,636,637,637,637",
   "FEC4=637,638,638,638,638,639,639,639,639,63A,63A,63A,63A,641",
   "FED2=641,641,641,642,642,642,642,643,643,643,643,644,644,644",
   "FEE0=644,645,645,645,645,646,646,646,646,647,647,647,647,648",
   "FEEE=648,649,649,64A,64A,64A,64A,644_622,644_622,644_623",
   "FEF8=644_623,644_625,644_625,644_627,644_627 FF01=21",
   "FF5D=7D,7E,2985,2986,2E,300C,300D,3001,30FB,30F2,30A1,30A3",
   "FF69=30A5,30A7,30A9,30E3,30E5,30E7,30C3,30FC,30A2,30A4,30A6",
   "FF74=30A8,30AA,30AB,30AD,30AF,30B1,30B3,30B5,30B7,30B9,30BB",
   "FF7F=30BD,30BF,30C1,30C4,30C6,30C8 FF8B=30D2,30D5,30D8,30DB FF94=30E4,30E6",
   "FF9C=30EF,30F3,3099,309A FFA1=1100,1101,11AA,1102,11AC,11AD,1103,1104,1105",
   "FFB0=111A,1106,1107,1108,1121 FFDA=1173,1174,1175 FFE0=A2,A3,AC FFE4=A6,A5,20A9 FFE8=2502",
   "FFED=25A0,25CB 1058D=105B4 1058F=105B6 10591=105B8 10595=105BC 10781=2D0,2D1,E6,299,253",
   "10787=2A3,AB66,2A5,2A4,256,257,1D91,258,25E,2A9,264,262,260",
   "10794=29B,127,29C,267,284,2AA,2AB,26C,1DF04,A78E,26E,1DF05",
   "107A0=28E,1DF06,F8,276,277,71,27A,1DF08,27D,27E,280,2A8,2A6 107AD=AB67,2A7,288,2C71",
   "107B2=28F,2A1,2A2,298,1C0,1C1,1C2,1DF0A,1DF1E",
   "1D15E=1D157_1D165,1D158_1D165,1D158_1D165_1D16E",
   "1D161=1D158_1D165_1D16F,1D158_1D165_1D170,1D158_1D165_1D171 1D164=1D158_1D165_1D172",
   "1D1BB=1D1B9_1D165,1D1BA_1D165,1D1B9_1D165_1D16E",
   "1D1BE=1D1BA_1D165_1D16E,1D1B9_1D165_1D16F,1D1BA_1D165_1D16F"]

def letterSpellings : List String :=
  ["1D44F=62 1D451=64 1D453=66 1D49C=61 1D49E=63,64 1D4A2=67 1D4A5=6A,6B 1D4BE=69 1D4C0=6B",
   "1D4C2=6D 1D504=61,62 1D538=61,62 1D546=6F 1D6A4=131,237 1D6B9=3B8 1D6C1=2207 1D6D3=3C3",
   "1D6DB=2202,3B5,3B8,3BA,3C6,3C1,3C0 1D6F3=3B8 1D6FB=2207 1D70D=3C3",
   "1D715=2202,3B5,3B8,3BA,3C6,3C1,3C0 1D72D=3B8 1D735=2207 1D747=3C3",
   "1D74F=2202,3B5,3B8,3BA,3C6,3C1,3C0 1D767=3B8 1D76F=2207 1D781=3C3",
   "1D789=2202,3B5,3B8,3BA,3C6,3C1,3C0 1D7A1=3B8 1D7A9=2207 1D7BB=3C3",
   "1D7C3=2202,3B5,3B8,3BA,3C6,3C1,3C0,3DD,3DD"]

def pictureSpellings : List String :=
  ["1E039=43A,43B,43C 1E047=44B,44D,44E,A689,4D9,456,458,4E9,4AF,4CF 1E05A=43A,43B,43E,43F,441",
   "1E065=44A,44B,491,456,455,45F,4AB,A651,4B1 1EE00=627,628,62C,62F 1EE05=648,632,62D,637,64A",
   "1EE0E=633,639,641,635,642,631,634,62A,62B,62E,630,636,638 1EE1B=63A,66E,6BA,6A1,66F",
   "1EE21=628,62C 1EE24=647 1EE27=62D 1EE29=64A 1EE2E=633,639,641,635,642",
   "1EE34=634,62A,62B,62E 1EE39=636 1EE3B=63A 1EE42=62C 1EE47=62D 1EE49=64A 1EE4B=644",
   "1EE4D=646,633,639 1EE51=635,642 1EE54=634 1EE57=62E 1EE59=636 1EE5B=63A 1EE5D=6BA",
   "1EE5F=66F 1EE61=628,62C 1EE64=647 1EE67=62D,637,64A,643 1EE6C=645,646,633,639,641,635,642",
   "1EE74=634,62A,62B,62E 1EE79=636,638,63A,66E 1EE7E=6A1",
   "1EE80=627,628,62C,62F,647,648,632,62D,637,64A",
   "1EE8B=644,645,646,633,639,641,635,642,631,634,62A,62B,62E 1EE98=630,636,638,63A",
   "1EEA1=628,62C,62F 1EEA5=648,632,62D,637,64A",
   "1EEAB=644,645,646,633,639,641,635,642,631,634,62A,62B,62E 1EEB8=630,636,638,63A",
   "1F101=30_2C,31_2C,32_2C,33_2C,34_2C,35_2C,36_2C,37_2C,38_2C 1F10A=39_2C",
   "1F110=28_61_29,28_62_29,28_63_29,28_64_29,28_65_29,28_66_29",
   "1F116=28_67_29,28_68_29,28_69_29,28_6A_29,28_6B_29,28_6C_29",
   "1F11C=28_6D_29,28_6E_29,28_6F_29,28_70_29,28_71_29,28_72_29",
   "1F122=28_73_29,28_74_29,28_75_29,28_76_29,28_77_29,28_78_29",
   "1F128=28_79_29,28_7A_29,3014_73_3015,63,72,63_64,77_7A",
   "1F14A=68_76,6D_76,73_64,73_73,70_70_76,77_63 1F16A=6D_63,6D_64,6D_72 1F190=64_6A",
   "1F200=307B_304B,30B3_30B3,30B5",
   "1F210=624B,5B57,53CC,30C7,4E8C,591A,89E3,5929,4EA4,6620,7121",
   "1F21B=6599,524D,5F8C,518D,65B0,521D,7D42,751F,8CA9,58F0,5439",
   "1F226=6F14,6295,6355,4E00,4E09,904A,5DE6,4E2D,53F3,6307,8D70",
   "1F231=6253,7981,7A7A,5408,6E80,6709,6708,7533,5272,55B6,914D",
   "1F240=3014_672C_3015,3014_4E09_3015,3014_4E8C_3015",
   "1F243=3014_5B89_3015,3014_70B9_3015,3014_6253_3015",
   "1F246=3014_76D7_3015,3014_52DD_3015,3014_6557_3015 1F250=5F97,53EF"]

def remoteSpellings : List String :=
  ["2F800=4E3D,4E38,4E41,20122,4F60,4FAE,4FBB,5002,507A,5099",
   "2F80A=50E7,50CF,349E,2063A,514D,5154,5164,5177,2051C,34B9",
   "2F814=5167,518D,2054B,5197,51A4,4ECC,51AC,51B5,291DF,51F5",
   "2F81E=5203,34DF,523B,5246,5272,5277,3515,52C7,52C9,52E4,52FA",
   "2F829=5305,5306,5317,5349,5351,535A,5373,537D,537F,537F,537F",
   "2F834=20A2C,7070,53CA,53DF,20B63,53EB,53F1,5406,549E,5438",
   "2F83E=5448,5468,54A2,54F6,5510,5553,5563,5584,5584,5599,55AB",
   "2F849=55B3,55C2,5716,5606,5717,5651,5674,5207,58EE,57CE,57F4",
   "2F854=580D,578B,5832,5831,58AC,214E4,58F2,58F7,5906,591A",
   "2F85E=5922,5962,216A8,216EA,59EC,5A1B,5A27,59D8,5A66,36EE",
   "2F868=36FC,5B08,5B3E,5B3E,219C8,5BC3,5BD8,5BE7,5BF3,21B18",
   "2F872=5BFF,5C06,5F53,5C22,3781,5C60,5C6E,5CC0,5C8D,21DE4",
   "2F87C=5D43,21DE6,5D6E,5D6B,5D7C,5DE1,5DE2,382F,5DFD,5E28",
   "2F886=5E3D,5E69,3862,22183,387C,5EB0,5EB3,5EB6,5ECA,2A392",
   "2F890=5EFE,22331,22331,8201,5F22,5F22,38C7,232B8,261DA,5F62",
   "2F89A=5F6B,38E3,5F9A,5FCD,5FD7,5FF9,6081,393A,391C,6094",
   "2F8A4=226D4,60C7,6148,614C,614E,614C,617A,618E,61B2,61A4",
   "2F8AE=61AF,61DE,61F2,61F6,6210,621B,625D,62B1,62D4,6350",
   "2F8B8=22B0C,633D,62FC,6368,6383,63E4,22BF1,6422,63C5,63A9",
   "2F8C2=3A2E,6469,647E,649D,6477,3A6C,654F,656C,2300A,65E3",
   "2F8CC=66F8,6649,3B19,6691,3B08,3AE4,5192,5195,6700,669C,80AD",
   "2F8D7=43D9,6717,671B,6721,675E,6753,233C3,3B49,67FA,6785",
   "2F8E1=6852,6885,2346D,688E,681F,6914,3B9D,6942,69A3,69EA",
   "2F8EB=6AA8,236A3,6ADB,3C18,6B21,238A7,6B54,3C4E,6B72,6B9F",
   "2F8F5=6BBA,6BBB,23A8D,21D0B,23AFA,6C4E,23CBC,6CBF,6CCD,6C67",
   "2F8FF=6D16,6D3E,6D77,6D41,6D69,6D78,6D85,23D1E,6D34,6E2F",
   "2F909=6E6E,3D33,6ECB,6EC7,23ED1,6DF9,6F6E,23F5E,23F8E,6FC6",
   "2F913=7039,701E,701B,3D96,704A,707D,7077,70AD,20525,7145",
   "2F91D=24263,719C,243AB,7228,7235,7250,24608,7280,7295,24735",
   "2F927=24814,737A,738B,3EAC,73A5,3EB8,3EB8,7447,745C,7471",
   "2F931=7485,74CA,3F1B,7524,24C36,753E,24C92,7570,2219F,7610",
   "2F93B=24FA1,24FB8,25044,3FFC,4008,76F4,250F3,250F2,25119",
   "2F944=25133,771E,771F,771F,774A,4039,778B,4046,4096,2541D",
   "2F94E=784E,788C,78CC,40E3,25626,7956,2569A,256C5,798F,79EB",
   "2F958=412F,7A40,7A4A,7A4F,2597C,25AA7,25AA7,7AEE,4202,25BAB",
   "2F962=7BC6,7BC9,4227,25C80,7CD2,42A0,7CE8,7CE3,7D00,25F86",
   "2F96C=7D63,4301,7DC7,7E02,7E45,4334,26228,26247,4359,262D9",
   "2F976=7F7A,2633E,7F95,7FFA,8005,264DA,26523,8060,265A8,8070",
   "2F980=2335F,43D5,80B2,8103,440B,813E,5AB5,267A7,267B5,23393",
   "2F98A=2339C,8201,8204,8F9E,446B,8291,828B,829D,52B3,82B1",
   "2F994=82B3,82BD,82E6,26B3C,82E5,831D,8363,83AD,8323,83BD",
   "2F99E=83E7,8457,8353,83CA,83CC,83DC,26C36,26D6B,26CD5,452B",
   "2F9A8=84F1,84F3,8516,273CA,8564,26F2C,455D,4561,26FB1,270D2",
   "2F9B2=456B,8650,865C,8667,8669,86A9,8688,870E,86E2,8779,8728",
   "2F9BD=876B,8786,45D7,87E1,8801,45F9,8860,8863,27667,88D7",
   "2F9C7=88DE,4635,88FA,34BB,278AE,27966,46BE,46C7,8AA0,8AED",
   "2F9D1=8B8A,8C55,27CA8,8CAB,8CC1,8D1B,8D77,27F2F,20804,8DCB",
   "2F9DB=8DBC,8DF0,208DE,8ED4,8F38,285D2,285ED,9094,90F1,9111",
   "2F9E5=2872E,911B,9238,92D7,92D8,927C,93F9,9415,28BFA,958B",
   "2F9EF=4995,95B7,28D77,49E6,96C3,5DB2,9723,29145,2921A,4A6E",
   "2F9F9=4A76,97E0,2940A,4AB2,29496,980B,980B,9829,295B6,98E2",
   "2FA03=4B33,9929,99A7,99C2,99FE,4BCE,29B30,9B12,9C40,9CFD",
   "2FA0D=4CCE,4CED,9D67,2A0CE,4CF8,2A105,2A20E,2A291,9EBB,4D56",
   "2FA17=9EF9,9EFE,9F05,9F0F,9F16,9F3B,2A600"]

end LintBridge.Domain.SpellingTable
