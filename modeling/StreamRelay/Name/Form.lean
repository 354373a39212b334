import StreamRelay.Text.CodeTable

/-!
# Characters of names

What becomes of a character in a host name. Most are kept. Others are replaced by what they stand
for: a capital by its small letter, a ligature by its letters, a foreign full stop by the plain
one. Some that cannot be seen are dropped, and the rest is refused. The tables are those of the
compatibility processing of internationalised domain names for Unicode 17.0.
-/

namespace StreamRelay.Name

open Text

/-- The characters that no name may hold. -/
def refused : CodeSet := .ofLines [
  "0080-009F 0378-0379 0380-0383 038B 038D 03A2 0530 0557-0558 058B-058C 0590 05C8-05CF",
  "05EB-05EE 05F5-0605 061C 06DD 070E-070F 074B-074C 07B2-07BF 07FB-07FC 082E-082F 083F",
  "085C-085D 085F 086B-086F 0890-0896 08E2 0984 098D-098E 0991-0992 09A9 09B1 09B3-09B5",
  "09BA-09BB 09C5-09C6 09C9-09CA 09CF-09D6 09D8-09DB 09DE 09E4-09E5 09FF-0A00 0A04 0A0B-0A0E",
  "0A11-0A12 0A29 0A31 0A34 0A37 0A3A-0A3B 0A3D 0A43-0A46 0A49-0A4A 0A4E-0A50 0A52-0A58 0A5D",
  "0A5F-0A65 0A77-0A80 0A84 0A8E 0A92 0AA9 0AB1 0AB4 0ABA-0ABB 0AC6 0ACA 0ACE-0ACF 0AD1-0ADF",
  "0AE4-0AE5 0AF2-0AF8 0B00 0B04 0B0D-0B0E 0B11-0B12 0B29 0B31 0B34 0B3A-0B3B 0B45-0B46",
  "0B49-0B4A 0B4E-0B54 0B58-0B5B 0B5E 0B64-0B65 0B78-0B81 0B84 0B8B-0B8D 0B91 0B96-0B98 0B9B",
  "0B9D 0BA0-0BA2 0BA5-0BA7 0BAB-0BAD 0BBA-0BBD 0BC3-0BC5 0BC9 0BCE-0BCF 0BD1-0BD6 0BD8-0BE5",
  "0BFB-0BFF 0C0D 0C11 0C29 0C3A-0C3B 0C45 0C49 0C4E-0C54 0C57 0C5B 0C5E-0C5F 0C64-0C65",
  "0C70-0C76 0C8D 0C91 0CA9 0CB4 0CBA-0CBB 0CC5 0CC9 0CCE-0CD4 0CD7-0CDB 0CDF 0CE4-0CE5 0CF0",
  "0CF4-0CFF 0D0D 0D11 0D45 0D49 0D50-0D53 0D64-0D65 0D80 0D84 0D97-0D99 0DB2 0DBC 0DBE-0DBF",
  "0DC7-0DC9 0DCB-0DCE 0DD5 0DD7 0DE0-0DE5 0DF0-0DF1 0DF5-0E00 0E3B-0E3E 0E5C-0E80 0E83 0E85",
  "0E8B 0EA4 0EA6 0EBE-0EBF 0EC5 0EC7 0ECF 0EDA-0EDB 0EE0-0EFF 0F48 0F6D-0F70 0F98 0FBD 0FCD",
  "0FDB-0FFF 10C6 10C8-10CC 10CE-10CF 1249 124E-124F 1257 1259 125E-125F 1289 128E-128F 12B1",
  "12B6-12B7 12BF 12C1 12C6-12C7 12D7 1311 1316-1317 135B-135C 137D-137F 139A-139F 13F6-13F7",
  "13FE-13FF 1680 169D-169F 16F9-16FF 1716-171E 1737-173F 1754-175F 176D 1771 1774-177F",
  "17DE-17DF 17EA-17EF 17FA-17FF 181A-181F 1879-187F 18AB-18AF 18F6-18FF 191F 192C-192F",
  "193C-193F 1941-1943 196E-196F 1975-197F 19AC-19AF 19CA-19CF 19DB-19DD 1A1C-1A1D 1A5F",
  "1A7D-1A7E 1A8A-1A8F 1A9A-1A9F 1AAE-1AAF 1ADE-1ADF 1AEC-1AFF 1B4D 1BF4-1BFB 1C38-1C3A",
  "1C4A-1C4C 1C8B-1C8F 1CBB-1CBC 1CC8-1CCF 1CFB-1CFF 1F16-1F17 1F1E-1F1F 1F46-1F47 1F4E-1F4F",
  "1F58 1F5A 1F5C 1F5E 1F7E-1F7F 1FB5 1FC5 1FD4-1FD5 1FDC 1FF0-1FF1 1FF5 1FFF 200E-200F",
  "2024-2026 2028-202E 2065-2069 2072-2073 208F 209D-209F 20C2-20CF 20F1-20FF 218C-218F",
  "242A-243F 244B-245F 2488-249B 2B74-2B75 2CF4-2CF8 2D26 2D28-2D2C 2D2E-2D2F 2D68-2D6E",
  "2D71-2D7E 2D97-2D9F 2DA7 2DAF 2DB7 2DBF 2DC7 2DCF 2DD7 2DDF 2E5E-2E7F 2E9A 2EF4-2EFF",
  "2FD6-2FFF 3040 3097-3098 3100-3104 3130 318F 31E6-31EF 321F 33C2 33C7 33D8 A48D-A48F",
  "A4C7-A4CF A62C-A63F A6F8-A6FF A7DD-A7F0 A82D-A82F A83A-A83F A878-A87F A8C6-A8CD A8DA-A8DF",
  "A954-A95E A97D-A97F A9CE A9DA-A9DD A9FF AA37-AA3F AA4E-AA4F AA5A-AA5B AAC3-AADA AAF7-AB00",
  "AB07-AB08 AB0F-AB10 AB17-AB1F AB27 AB2F AB6C-AB6F ABEE-ABEF ABFA-ABFF D7A4-D7AF D7C7-D7CA",
  "D7FC-F8FF FA6E-FA6F FADA-FAFF FB07-FB12 FB18-FB1C FB37 FB3D FB3F FB42 FB45 FDD0-FDEF FE12",
  "FE19-FE1F FE30 FE52-FE53 FE67 FE6C-FE6F FE75 FEFD-FEFE FF00 FFBF-FFC1 FFC8-FFC9 FFD0-FFD1",
  "FFD8-FFD9 FFDD-FFDF FFE7 FFEF-FFFF 1000C 10027 1003B 1003E 1004E-1004F 1005E-1007F",
  "100FB-100FF 10103-10106 10134-10136 1018F 1019D-1019F 101A1-101CF 101FE-1027F 1029D-1029F",
  "102D1-102DF 102FC-102FF 10324-1032C 1034B-1034F 1037B-1037F 1039E 103C4-103C7 103D6-103FF",
  "1049E-1049F 104AA-104AF 104D4-104D7 104FC-104FF 10528-1052F 10564-1056E 1057B 1058B 10593",
  "10596 105A2 105B2 105BA 105BD-105BF 105F4-105FF 10737-1073F 10756-1075F 10768-1077F 10786",
  "107B1 107BB-107FF 10806-10807 10809 10836 10839-1083B 1083D-1083E 10856 1089F-108A6",
  "108B0-108DF 108F3 108F6-108FA 1091C-1091E 1093A-1093E 1095A-1097F 109B8-109BB 109D0-109D1",
  "10A04 10A07-10A0B 10A14 10A18 10A36-10A37 10A3B-10A3E 10A49-10A4F 10A59-10A5F 10AA0-10ABF",
  "10AE7-10AEA 10AF7-10AFF 10B36-10B38 10B56-10B57 10B73-10B77 10B92-10B98 10B9D-10BA8",
  "10BB0-10BFF 10C49-10C7F 10CB3-10CBF 10CF3-10CF9 10D28-10D2F 10D3A-10D3F 10D66-10D68",
  "10D86-10D8D 10D90-10E5F 10E7F 10EAA 10EAE-10EAF 10EB2-10EC1 10EC8-10ECF 10ED9-10EF9",
  "10F28-10F2F 10F5A-10F6F 10F8A-10FAF 10FCC-10FDF 10FF7-10FFF 1104E-11051 11076-1107E 110BD",
  "110C3-110CF 110E9-110EF 110FA-110FF 11135 11148-1114F 11177-1117F 111E0 111F5-111FF 11212",
  "11242-1127F 11287 11289 1128E 1129E 112AA-112AF 112EB-112EF 112FA-112FF 11304 1130D-1130E",
  "11311-11312 11329 11331 11334 1133A 11345-11346 11349-1134A 1134E-1134F 11351-11356",
  "11358-1135C 11364-11365 1136D-1136F 11375-1137F 1138A 1138C-1138D 1138F 113B6 113C1",
  "113C3-113C4 113C6 113CB 113D6 113D9-113E0 113E3-113FF 1145C 11462-1147F 114C8-114CF",
  "114DA-1157F 115B6-115B7 115DE-115FF 11645-1164F 1165A-1165F 1166D-1167F 116BA-116BF",
  "116CA-116CF 116E4-116FF 1171B-1171C 1172C-1172F 11747-117FF 1183C-1189F 118F3-118FE",
  "11907-11908 1190A-1190B 11914 11917 11936 11939-1193A 11947-1194F 1195A-1199F 119A8-119A9",
  "119D8-119D9 119E5-119FF 11A48-11A4F 11AA3-11AAF 11AF9-11AFF 11B0A-11B5F 11B68-11BBF",
  "11BE2-11BEF 11BFA-11BFF 11C09 11C37 11C46-11C4F 11C6D-11C6F 11C90-11C91 11CA8 11CB7-11CFF",
  "11D07 11D0A 11D37-11D39 11D3B 11D3E 11D48-11D4F 11D5A-11D5F 11D66 11D69 11D8F 11D92",
  "11D99-11D9F 11DAA-11DAF 11DDC-11DDF 11DEA-11EDF 11EF9-11EFF 11F11 11F3B-11F3D 11F5B-11FAF",
  "11FB1-11FBF 11FF2-11FFE 1239A-123FF 1246F 12475-1247F 12544-12F8F 12FF3-12FFF 13430-1343F",
  "13456-1345F 143FB-143FF 14647-160FF 1613A-167FF 16A39-16A3F 16A5F 16A6A-16A6D 16ABF",
  "16ACA-16ACF 16AEE-16AEF 16AF6-16AFF 16B46-16B4F 16B5A 16B62 16B78-16B7C 16B90-16D3F",
  "16D7A-16E3F 16E9B-16E9F 16EB9-16EBA 16ED4-16EFF 16F4B-16F4E 16F88-16F8E 16FA0-16FDF",
  "16FE5-16FEF 16FF7-16FFF 18CD6-18CFE 18D1F-18D7F 18DF3-1AFEF 1AFF4 1AFFC 1AFFF 1B123-1B131",
  "1B133-1B14F 1B153-1B154 1B156-1B163 1B168-1B16F 1B2FC-1BBFF 1BC6B-1BC6F 1BC7D-1BC7F",
  "1BC89-1BC8F 1BC9A-1BC9B 1BCA4-1CBFF 1CCFD-1CCFF 1CEB4-1CEB9 1CED1-1CEDF 1CEF1-1CEFF",
  "1CF2E-1CF2F 1CF47-1CF4F 1CFC4-1CFFF 1D0F6-1D0FF 1D127-1D128 1D1EB-1D1FF 1D246-1D2BF",
  "1D2D4-1D2DF 1D2F4-1D2FF 1D357-1D35F 1D379-1D3FF 1D455 1D49D 1D4A0-1D4A1 1D4A3-1D4A4",
  "1D4A7-1D4A8 1D4AD 1D4BA 1D4BC 1D4C4 1D506 1D50B-1D50C 1D515 1D51D 1D53A 1D53F 1D545",
  "1D547-1D549 1D551 1D6A6-1D6A7 1D7CC-1D7CD 1DA8C-1DA9A 1DAA0 1DAB0-1DEFF 1DF1F-1DF24",
  "1DF2B-1DFFF 1E007 1E019-1E01A 1E022 1E025 1E02B-1E02F 1E06E-1E08E 1E090-1E0FF 1E12D-1E12F",
  "1E13E-1E13F 1E14A-1E14D 1E150-1E28F 1E2AF-1E2BF 1E2FA-1E2FE 1E300-1E4CF 1E4FA-1E5CF",
  "1E5FB-1E5FE 1E600-1E6BF 1E6DF 1E6F6-1E6FD 1E700-1E7DF 1E7E7 1E7EC 1E7EF 1E7FF 1E8C5-1E8C6",
  "1E8D7-1E8FF 1E94C-1E94F 1E95A-1E95D 1E960-1EC70 1ECB5-1ED00 1ED3E-1EDFF 1EE04 1EE20 1EE23",
  "1EE25-1EE26 1EE28 1EE33 1EE38 1EE3A 1EE3C-1EE41 1EE43-1EE46 1EE48 1EE4A 1EE4C 1EE50 1EE53",
  "1EE55-1EE56 1EE58 1EE5A 1EE5C 1EE5E 1EE60 1EE63 1EE65-1EE66 1EE6B 1EE73 1EE78 1EE7D 1EE7F",
  "1EE8A 1EE9C-1EEA0 1EEA4 1EEAA 1EEBC-1EEEF 1EEF2-1EFFF 1F02C-1F02F 1F094-1F09F 1F0AF-1F0B0",
  "1F0C0 1F0D0 1F0F6-1F100 1F1AE-1F1E5 1F203-1F20F 1F23C-1F23F 1F249-1F24F 1F252-1F25F",
  "1F266-1F2FF 1F6D9-1F6DB 1F6ED-1F6EF 1F6FD-1F6FF 1F7DA-1F7DF 1F7EC-1F7EF 1F7F1-1F7FF",
  "1F80C-1F80F 1F848-1F84F 1F85A-1F85F 1F888-1F88F 1F8AE-1F8AF 1F8BC-1F8BF 1F8C2-1F8CF",
  "1F8D9-1F8FF 1FA58-1FA5F 1FA6E-1FA6F 1FA7D-1FA7F 1FA8B-1FA8D 1FAC7 1FAC9-1FACC 1FADD-1FADE",
  "1FAEB-1FAEE 1FAF9-1FAFF 1FB93 1FBFB-1FFFF 2A6E0-2A6FF 2B81E-2B81F 2CEAE-2CEAF 2EBE1-2EBEF",
  "2EE5E-2F7FF 2FA1E-2FFFF 3134B-3134F 3347A-E00FF E01F0-10FFFF"]

/-- The characters that a name loses. -/
def dropped : CodeSet := .ofLines [
  "00AD 034F 115F-1160 17B4-17B5 180B-180F 200B 2060-2064 206A-206F 3164 FE00-FE0F FEFF FFA0",
  "1BCA0-1BCA3 1D173-1D17A E0100-E01EF"]

/-- The characters outside ASCII that are replaced, and what replaces them. -/
def replaced : CodeMap := .ofLines [
  "00A0=0020 00A8=0020.0308 00AA=0061 00AF=0020.0304 00B2=0032,0033,0020.0301,03BC",
  "00B8=0020.0327,0031,006F 00BC=0031.2044.0034,0031.2044.0032 00BE=0033.2044.0034 00C0-00D6=00E0",
  "00D8-00DE=00F8 0100-012E/2=0101 0130=0069.0307 0132=0069.006A,0069.006A,0135 0136=0137",
  "0139-013D/2=013A 013F=006C.00B7,006C.00B7 0141-0147/2=0142 0149=02BC.006E 014A-0176/2=014B",
  "0178=00FF 0179-017D/2=017A 017F=0073 0181=0253,0183 0184=0185 0186=0254,0188",
  "0189=0256,0257,018C 018E=01DD,0259,025B,0192 0193=0260,0263 0196=0269,0268,0199 019C=026F,0272",
  "019F=0275 01A0-01A4/2=01A1 01A6=0280,01A8 01A9=0283 01AC=01AD 01AE=0288,01B0",
  "01B1=028A,028B,01B4 01B5=01B6 01B7=0292,01B9 01BC=01BD",
  "01C4=0064.017E,0064.017E,0064.017E,006C.006A 01C8=006C.006A,006C.006A,006E.006A,006E.006A",
  "01CC=006E.006A 01CD-01DB/2=01CE 01DE-01EE/2=01DF 01F1=0064.007A,0064.007A,0064.007A,01F5",
  "01F6=0195,01BF 01F8-021E/2=01F9 0220=019E 0222-0232/2=0223 023A=2C65,023C 023D=019A,2C66",
  "0241=0242 0243=0180,0289,028C 0246-024E/2=0247 02B0=0068,0266,006A,0072,0279,027B,0281,0077",
  "02B8=0079 02D8=0020.0306,0020.0307,0020.030A,0020.0328 02DC=0020.0303,0020.030B",
  "02E0=0263,006C,0073,0078,0295 0340=0300,0301 0343=0313,0308.0301,03B9 0370=0371 0372=0373",
  "0374=02B9 0376=0377 037A=0020.03B9 037E=003B,03F3 0384=0020.0301,0020.0308.0301,03AC,00B7",
  "0388-038A=03AD 038C=03CC 038E=03CD,03CE 0391-03A1=03B1 03A3-03AB=03C3",
  "03CF=03D7,03B2,03B8,03C5,03CD,03CB,03C6,03C0 03D8-03EE/2=03D9 03F0=03BA,03C1,03C3",
  "03F4=03B8,03B5 03F7=03F8 03F9=03C3,03FB 03FD-03FF=037B 0400-040F=0450 0410-042F=0430",
  "0460-0480/2=0461 048A-04BE/2=048B 04C0=04CF 04C1-04CD/2=04C2 04D0-052E/2=04D1 0531-0556=0561",
  "0587=0565.0582 0675=0627.0674,0648.0674,06C7.0674,064A.0674",
  "0958=0915.093C,0916.093C,0917.093C,091C.093C 095C=0921.093C,0922.093C,092B.093C,092F.093C",
  "09DC=09A1.09BC,09A2.09BC 09DF=09AF.09BC 0A33=0A32.0A3C 0A36=0A38.0A3C",
  "0A59=0A16.0A3C,0A17.0A3C,0A1C.0A3C 0A5E=0A2B.0A3C 0B5C=0B21.0B3C,0B22.0B3C 0E33=0E4D.0E32",
  "0EB3=0ECD.0EB2 0EDC=0EAB.0E99,0EAB.0EA1 0F0C=0F0B 0F43=0F42.0FB7 0F4D=0F4C.0FB7 0F52=0F51.0FB7",
  "0F57=0F56.0FB7 0F5C=0F5B.0FB7 0F69=0F40.0FB5 0F73=0F71.0F72",
  "0F75=0F71.0F74,0FB2.0F80,0FB2.0F71.0F80 0F78=0FB3.0F80,0FB3.0F71.0F80 0F81=0F71.0F80",
  "0F93=0F92.0FB7 0F9D=0F9C.0FB7 0FA2=0FA1.0FB7 0FA7=0FA6.0FB7 0FAC=0FAB.0FB7 0FB9=0F90.0FB5",
  "10A0-10C5=2D00 10C7=2D27 10CD=2D2D 10FC=10DC 13F8-13FD=13F0",
  "1C80=0432,0434,043E,0441,0442,0442,044A,0463 1C88=A64B,1C8A 1C90-1CBA=10D0 1CBD-1CBF=10FD",
  "1D2C=0061,00E6,0062 1D30=0064,0065,01DD 1D33-1D3A=0067",
  "1D3C=006F,0223,0070,0072,0074,0075,0077,0061 1D44=0250,0251,1D02,0062,0064,0065,0259,025B",
  "1D4C=025C,0067 1D4F=006B,006D,014B,006F,0254,1D16,1D17,0070 1D57=0074,0075,1D1D,026F,0076,1D25",
  "1D5D-1D5F=03B2 1D60=03C6,03C7,0069,0072,0075,0076,03B2,03B3 1D68=03C1,03C6,03C7 1D78=043D",
  "1D9B=0252,0063,0255,00F0,025C,0066,025F,0261 1DA3=0265 1DA4-1DA6=0268",
  "1DA7=1D7B,029D,026D,1D85,029F,0271,0270 1DAE-1DB1=0272",
  "1DB2=0278,0282,0283,01AB,0289,028A,1D1C,028B 1DBA=028C,007A 1DBC-1DBE=0290 1DBF=03B8",
  "1E00-1E94/2=1E01 1E9A=0061.02BE,1E61 1E9E=00DF 1EA0-1EFE/2=1EA1 1F08-1F0F=1F00 1F18-1F1D=1F10",
  "1F28-1F2F=1F20 1F38-1F3F=1F30 1F48-1F4D=1F40 1F59-1F5F/2=1F51 1F68-1F6F=1F60 1F71=03AC",
  "1F73=03AD 1F75=03AE 1F77=03AF 1F79=03CC 1F7B=03CD 1F7D=03CE",
  "1F80=1F00.03B9,1F01.03B9,1F02.03B9,1F03.03B9 1F84=1F04.03B9,1F05.03B9,1F06.03B9,1F07.03B9",
  "1F88=1F00.03B9,1F01.03B9,1F02.03B9,1F03.03B9 1F8C=1F04.03B9,1F05.03B9,1F06.03B9,1F07.03B9",
  "1F90=1F20.03B9,1F21.03B9,1F22.03B9,1F23.03B9 1F94=1F24.03B9,1F25.03B9,1F26.03B9,1F27.03B9",
  "1F98=1F20.03B9,1F21.03B9,1F22.03B9,1F23.03B9 1F9C=1F24.03B9,1F25.03B9,1F26.03B9,1F27.03B9",
  "1FA0=1F60.03B9,1F61.03B9,1F62.03B9,1F63.03B9 1FA4=1F64.03B9,1F65.03B9,1F66.03B9,1F67.03B9",
  "1FA8=1F60.03B9,1F61.03B9,1F62.03B9,1F63.03B9 1FAC=1F64.03B9,1F65.03B9,1F66.03B9,1F67.03B9",
  "1FB2=1F70.03B9,03B1.03B9,03AC.03B9 1FB7=1FB6.03B9,1FB0,1FB1,1F70,03AC,03B1.03B9",
  "1FBD=0020.0313,03B9,0020.0313,0020.0342 1FC1=0020.0308.0342,1F74.03B9,03B7.03B9 1FC4=03AE.03B9",
  "1FC7=1FC6.03B9,1F72,03AD,1F74,03AE,03B7.03B9 1FCD=0020.0313.0300,0020.0313.0301",
  "1FCF=0020.0313.0342 1FD3=0390 1FD8=1FD0,1FD1,1F76,03AF 1FDD=0020.0314.0300,0020.0314.0301",
  "1FDF=0020.0314.0342 1FE3=03B0 1FE8=1FE0,1FE1,1F7A,03CD,1FE5,0020.0308.0300",
  "1FEE=0020.0308.0301,0060 1FF2=1F7C.03B9,03C9.03B9,03CE.03B9",
  "1FF7=1FF6.03B9,1F78,03CC,1F7C,03CE,03C9.03B9 1FFD=0020.0301,0020.0314",
  "2000=0020,0020,0020,0020,0020,0020,0020,0020 2008=0020,0020,0020 2011=2010 2017=0020.0333",
  "202F=0020 2033=2032.2032,2032.2032.2032 2036=2035.2035,2035.2035.2035 203C=0021.0021",
  "203E=0020.0305 2047=003F.003F,003F.0021,0021.003F 2057=2032.2032.2032.2032 205F=0020",
  "2070=0030,0069 2074-2079=0034 207A=002B,2212,003D,0028,0029,006E 2080-2089=0030",
  "208A=002B,2212,003D,0028,0029 2090=0061,0065,006F,0078,0259,0068 2096-2099=006B",
  "209A=0070,0073,0074 20A8=0072.0073 2100=0061.002F.0063,0061.002F.0073,0063 2103=00B0.0063",
  "2105=0063.002F.006F,0063.002F.0075,025B 2109=00B0.0066,0067,0068,0068,0068,0068,0127",
  "2110=0069,0069,006C,006C 2115=006E,006E.006F 2119-211B=0070 211C=0072,0072",
  "2120=0073.006D,0074.0065.006C,0074.006D 2124=007A 2126=03C9 2128=007A 212A=006B,00E5,0062,0063",
  "212F=0065,0065,0066,214E,006D,006F 2135-2138=05D0 2139=0069",
  "213B=0066.0061.0078,03C0,03B3,03B3,03C0,2211 2145=0064,0064,0065,0069,006A",
  "2150=0031.2044.0037,0031.2044.0039 2152=0031.2044.0031.0030,0031.2044.0033",
  "2154=0032.2044.0033,0031.2044.0035 2156=0032.2044.0035,0033.2044.0035",
  "2158=0034.2044.0035,0031.2044.0036 215A=0035.2044.0036,0031.2044.0038",
  "215C=0033.2044.0038,0035.2044.0038 215E=0037.2044.0038,0031.2044,0069,0069.0069",
  "2162=0069.0069.0069,0069.0076,0076,0076.0069 2166=0076.0069.0069,0076.0069.0069.0069",
  "2168=0069.0078,0078,0078.0069,0078.0069.0069 216C=006C,0063,0064,006D,0069,0069.0069",
  "2172=0069.0069.0069,0069.0076,0076,0076.0069 2176=0076.0069.0069,0076.0069.0069.0069",
  "2178=0069.0078,0078,0078.0069,0078.0069.0069 217C=006C,0063,0064,006D 2183=2184",
  "2189=0030.2044.0033 222C=222B.222B,222B.222B.222B 222F=222E.222E,222E.222E.222E 2329=3008,3009",
  "2460-2468=0031 2469=0031.0030,0031.0031,0031.0032,0031.0033",
  "246D=0031.0034,0031.0035,0031.0036,0031.0037 2471=0031.0038,0031.0039,0032.0030",
  "2474=0028.0031.0029,0028.0032.0029 2476=0028.0033.0029,0028.0034.0029",
  "2478=0028.0035.0029,0028.0036.0029 247A=0028.0037.0029,0028.0038.0029",
  "247C=0028.0039.0029,0028.0031.0030.0029 247E=0028.0031.0031.0029,0028.0031.0032.0029",
  "2480=0028.0031.0033.0029,0028.0031.0034.0029 2482=0028.0031.0035.0029,0028.0031.0036.0029",
  "2484=0028.0031.0037.0029,0028.0031.0038.0029 2486=0028.0031.0039.0029,0028.0032.0030.0029",
  "249C=0028.0061.0029,0028.0062.0029 249E=0028.0063.0029,0028.0064.0029",
  "24A0=0028.0065.0029,0028.0066.0029 24A2=0028.0067.0029,0028.0068.0029",
  "24A4=0028.0069.0029,0028.006A.0029 24A6=0028.006B.0029,0028.006C.0029",
  "24A8=0028.006D.0029,0028.006E.0029 24AA=0028.006F.0029,0028.0070.0029",
  "24AC=0028.0071.0029,0028.0072.0029 24AE=0028.0073.0029,0028.0074.0029",
  "24B0=0028.0075.0029,0028.0076.0029 24B2=0028.0077.0029,0028.0078.0029",
  "24B4=0028.0079.0029,0028.007A.0029 24B6-24CF=0061 24D0-24E9=0061 24EA=0030",
  "2A0C=222B.222B.222B.222B 2A74=003A.003A.003D,003D.003D,003D.003D.003D 2ADC=2ADD.0338",
  "2C00-2C2F=2C30 2C60=2C61 2C62=026B,1D7D,027D 2C67-2C6B/2=2C68 2C6D=0251,0271,0250,0252",
  "2C72=2C73 2C75=2C76 2C7C=006A,0076,023F,0240 2C80-2CE2/2=2C81 2CEB=2CEC 2CED=2CEE 2CF2=2CF3",
  "2D6F=2D61 2E9F=6BCD 2EF3=9F9F 2F00=4E00,4E28,4E36,4E3F,4E59,4E85,4E8C,4EA0",
  "2F08=4EBA,513F,5165,516B,5182,5196,51AB,51E0 2F10=51F5,5200,529B,52F9,5315,531A,5338,5341",
  "2F18=535C,5369,5382,53B6,53C8,53E3,56D7,571F 2F20=58EB,5902,590A,5915,5927,5973,5B50,5B80",
  "2F28=5BF8,5C0F,5C22,5C38,5C6E,5C71,5DDB,5DE5 2F30=5DF1,5DFE,5E72,5E7A,5E7F,5EF4,5EFE,5F0B",
  "2F38=5F13,5F50,5F61,5F73,5FC3,6208,6236,624B 2F40=652F,6534,6587,6597,65A4,65B9,65E0,65E5",
  "2F48=66F0,6708,6728,6B20,6B62,6B79,6BB3,6BCB 2F50=6BD4,6BDB,6C0F,6C14,6C34,706B,722A,7236",
  "2F58=723B,723F,7247,7259,725B,72AC,7384,7389 2F60=74DC,74E6,7518,751F,7528,7530,758B,7592",
  "2F68=7676,767D,76AE,76BF,76EE,77DB,77E2,77F3 2F70=793A,79B8,79BE,7A74,7ACB,7AF9,7C73,7CF8",
  "2F78=7F36,7F51,7F8A,7FBD,8001,800C,8012,8033 2F80=807F,8089,81E3,81EA,81F3,81FC,820C,821B",
  "2F88=821F,826E,8272,8278,864D,866B,8840,884C 2F90=8863,897E,898B,89D2,8A00,8C37,8C46,8C55",
  "2F98=8C78,8C9D,8D64,8D70,8DB3,8EAB,8ECA,8F9B 2FA0=8FB0,8FB5,9091,9149,91C6,91CC,91D1,9577",
  "2FA8=9580,961C,96B6,96B9,96E8,9751,975E,9762 2FB0=9769,97CB,97ED,97F3,9801,98A8,98DB,98DF",
  "2FB8=9996,9999,99AC,9AA8,9AD8,9ADF,9B25,9B2F 2FC0=9B32,9B3C,9B5A,9CE5,9E75,9E7F,9EA5,9EBB",
  "2FC8=9EC3,9ECD,9ED1,9EF9,9EFD,9F0E,9F13,9F20 2FD0=9F3B,9F4A,9F52,9F8D,9F9C,9FA0 3000=0020",
  "3002=002E 3036=3012 3038=5341,5344,5345 309B=0020.3099,0020.309A 309F=3088.308A 30FF=30B3.30C8",
  "3131=1100,1101,11AA,1102,11AC,11AD 3137-3139=1103 313A-313F=11B0 3140=111A 3141-3143=1106",
  "3144=1121 3145-314E=1109 314F-3163=1161 3165=1114,1115,11C7,11C8,11CC,11CE,11D3,11D7",
  "316D=11D9,111C,11DD,11DF,111D,111E,1120,1122 3175=1123,1127,1129 3178-317C=112B",
  "317D=1132,1136,1140,1147,114C,11F1,11F2 3184-3186=1157",
  "3187=1184,1185,1188,1191,1192,1194,119E,11A1 3192=4E00,4E8C,4E09,56DB,4E0A,4E2D,4E0B,7532",
  "319A=4E59,4E19,4E01,5929,5730,4EBA 3200=0028.1100.0029,0028.1102.0029",
  "3202=0028.1103.0029,0028.1105.0029 3204=0028.1106.0029,0028.1107.0029",
  "3206=0028.1109.0029,0028.110B.0029 3208=0028.110C.0029,0028.110E.0029",
  "320A=0028.110F.0029,0028.1110.0029 320C=0028.1111.0029,0028.1112.0029",
  "320E=0028.AC00.0029,0028.B098.0029 3210=0028.B2E4.0029,0028.B77C.0029",
  "3212=0028.B9C8.0029,0028.BC14.0029 3214=0028.C0AC.0029,0028.C544.0029",
  "3216=0028.C790.0029,0028.CC28.0029 3218=0028.CE74.0029,0028.D0C0.0029",
  "321A=0028.D30C.0029,0028.D558.0029 321C=0028.C8FC.0029,0028.C624.C804.0029",
  "321E=0028.C624.D6C4.0029 3220=0028.4E00.0029,0028.4E8C.0029 3222=0028.4E09.0029,0028.56DB.0029",
  "3224=0028.4E94.0029,0028.516D.0029 3226=0028.4E03.0029,0028.516B.0029",
  "3228=0028.4E5D.0029,0028.5341.0029 322A=0028.6708.0029,0028.706B.0029",
  "322C=0028.6C34.0029,0028.6728.0029 322E=0028.91D1.0029,0028.571F.0029",
  "3230=0028.65E5.0029,0028.682A.0029 3232=0028.6709.0029,0028.793E.0029",
  "3234=0028.540D.0029,0028.7279.0029 3236=0028.8CA1.0029,0028.795D.0029",
  "3238=0028.52B4.0029,0028.4EE3.0029 323A=0028.547C.0029,0028.5B66.0029",
  "323C=0028.76E3.0029,0028.4F01.0029 323E=0028.8CC7.0029,0028.5354.0029",
  "3240=0028.796D.0029,0028.4F11.0029 3242=0028.81EA.0029,0028.81F3.0029,554F,5E7C 3246=6587,7B8F",
  "3250=0070.0074.0065,0032.0031,0032.0032 3253=0032.0033,0032.0034,0032.0035,0032.0036",
  "3257=0032.0037,0032.0038,0032.0039,0033.0030 325B=0033.0031,0033.0032,0033.0033,0033.0034",
  "325F=0033.0035,1100,1102,1103 3263-3265=1105 3266=1109,110B,110C 3269-326D=110E",
  "326E=AC00,B098,B2E4,B77C,B9C8,BC14,C0AC,C544 3276=C790,CC28,CE74,D0C0,D30C,D558,CC38.ACE0",
  "327D=C8FC.C758,C6B0 3280=4E00,4E8C,4E09,56DB,4E94,516D,4E03,516B",
  "3288=4E5D,5341,6708,706B,6C34,6728,91D1,571F 3290=65E5,682A,6709,793E,540D,7279,8CA1,795D",
  "3298=52B4,79D8,7537,5973,9069,512A,5370,6CE8 32A0=9805,4F11,5199,6B63,4E0A,4E2D,4E0B,5DE6",
  "32A8=53F3,533B,5B97,5B66,76E3,4F01,8CC7,5354 32B0=591C,0033.0036,0033.0037,0033.0038",
  "32B4=0033.0039,0034.0030,0034.0031,0034.0032 32B8=0034.0033,0034.0034,0034.0035,0034.0036",
  "32BC=0034.0037,0034.0038,0034.0039,0035.0030 32C0=0031.6708,0032.6708,0033.6708,0034.6708",
  "32C4=0035.6708,0036.6708,0037.6708,0038.6708 32C8=0039.6708,0031.0030.6708,0031.0031.6708",
  "32CB=0031.0032.6708,0068.0067,0065.0072.0067 32CE=0065.0076,006C.0074.0064,30A2,30A4,30A6",
  "32D3=30A8,30AA,30AB,30AD,30AF,30B1,30B3,30B5 32DB=30B7,30B9,30BB,30BD,30BF,30C1,30C4,30C6",
  "32E3=30C8 32E4-32E9=30CA 32EA=30D2,30D5,30D8,30DB 32EE-32F2=30DE 32F3=30E4,30E6 32F5-32FA=30E8",
  "32FB-32FE=30EF 32FF=4EE4.548C,30A2.30D1.30FC.30C8 3301=30A2.30EB.30D5.30A1,30A2.30F3.30DA.30A2",
  "3303=30A2.30FC.30EB,30A4.30CB.30F3.30B0 3305=30A4.30F3.30C1,30A6.30A9.30F3",
  "3307=30A8.30B9.30AF.30FC.30C9 3308=30A8.30FC.30AB.30FC,30AA.30F3.30B9",
  "330A=30AA.30FC.30E0,30AB.30A4.30EA 330C=30AB.30E9.30C3.30C8,30AB.30ED.30EA.30FC",
  "330E=30AC.30ED.30F3,30AC.30F3.30DE,30AE.30AC 3311=30AE.30CB.30FC,30AD.30E5.30EA.30FC",
  "3313=30AE.30EB.30C0.30FC,30AD.30ED 3315=30AD.30ED.30B0.30E9.30E0",
  "3316=30AD.30ED.30E1.30FC.30C8.30EB 3317=30AD.30ED.30EF.30C3.30C8,30B0.30E9.30E0",
  "3319=30B0.30E9.30E0.30C8.30F3 331A=30AF.30EB.30BC.30A4.30ED",
  "331B=30AF.30ED.30FC.30CD,30B1.30FC.30B9 331D=30B3.30EB.30CA,30B3.30FC.30DD",
  "331F=30B5.30A4.30AF.30EB 3320=30B5.30F3.30C1.30FC.30E0 3321=30B7.30EA.30F3.30B0,30BB.30F3.30C1",
  "3323=30BB.30F3.30C8,30C0.30FC.30B9,30C7.30B7 3326=30C9.30EB,30C8.30F3,30CA.30CE",
  "3329=30CE.30C3.30C8,30CF.30A4.30C4 332B=30D1.30FC.30BB.30F3.30C8,30D1.30FC.30C4",
  "332D=30D0.30FC.30EC.30EB 332E=30D4.30A2.30B9.30C8.30EB,30D4.30AF.30EB 3330=30D4.30B3,30D3.30EB",
  "3332=30D5.30A1.30E9.30C3.30C9 3333=30D5.30A3.30FC.30C8",
  "3334=30D6.30C3.30B7.30A7.30EB,30D5.30E9.30F3 3336=30D8.30AF.30BF.30FC.30EB,30DA.30BD",
  "3338=30DA.30CB.30D2,30D8.30EB.30C4 333A=30DA.30F3.30B9,30DA.30FC.30B8",
  "333C=30D9.30FC.30BF,30DD.30A4.30F3.30C8 333E=30DC.30EB.30C8,30DB.30F3,30DD.30F3.30C9",
  "3341=30DB.30FC.30EB,30DB.30FC.30F3 3343=30DE.30A4.30AF.30ED,30DE.30A4.30EB",
  "3345=30DE.30C3.30CF,30DE.30EB.30AF 3347=30DE.30F3.30B7.30E7.30F3",
  "3348=30DF.30AF.30ED.30F3,30DF.30EA 334A=30DF.30EA.30D0.30FC.30EB,30E1.30AC",
  "334C=30E1.30AC.30C8.30F3,30E1.30FC.30C8.30EB 334E=30E4.30FC.30C9,30E4.30FC.30EB",
  "3350=30E6.30A2.30F3,30EA.30C3.30C8.30EB 3352=30EA.30E9,30EB.30D4.30FC",
  "3354=30EB.30FC.30D6.30EB,30EC.30E0 3356=30EC.30F3.30C8.30B2.30F3,30EF.30C3.30C8",
  "3358=0030.70B9,0031.70B9,0032.70B9,0033.70B9 335C=0034.70B9,0035.70B9,0036.70B9,0037.70B9",
  "3360=0038.70B9,0039.70B9,0031.0030.70B9 3363=0031.0031.70B9,0031.0032.70B9",
  "3365=0031.0033.70B9,0031.0034.70B9 3367=0031.0035.70B9,0031.0036.70B9",
  "3369=0031.0037.70B9,0031.0038.70B9 336B=0031.0039.70B9,0032.0030.70B9",
  "336D=0032.0031.70B9,0032.0032.70B9 336F=0032.0033.70B9,0032.0034.70B9",
  "3371=0068.0070.0061,0064.0061,0061.0075 3374=0062.0061.0072,006F.0076,0070.0063",
  "3377=0064.006D,0064.006D.0032,0064.006D.0033 337A=0069.0075,5E73.6210,662D.548C,5927.6B63",
  "337E=660E.6CBB,682A.5F0F.4F1A.793E,0070.0061 3381=006E.0061,03BC.0061,006D.0061,006B.0061",
  "3385=006B.0062,006D.0062,0067.0062 3388=0063.0061.006C,006B.0063.0061.006C",
  "338A=0070.0066,006E.0066,03BC.0066,03BC.0067 338E=006D.0067,006B.0067,0068.007A",
  "3391=006B.0068.007A,006D.0068.007A 3393=0067.0068.007A,0074.0068.007A,03BC.006C",
  "3396=006D.006C,0064.006C,006B.006C,0066.006D 339A=006E.006D,03BC.006D,006D.006D,0063.006D",
  "339E=006B.006D,006D.006D.0032,0063.006D.0032 33A1=006D.0032,006B.006D.0032,006D.006D.0033",
  "33A4=0063.006D.0033,006D.0033,006B.006D.0033 33A7=006D.2215.0073,006D.2215.0073.0032",
  "33A9=0070.0061,006B.0070.0061,006D.0070.0061 33AC=0067.0070.0061,0072.0061.0064",
  "33AE=0072.0061.0064.2215.0073 33AF=0072.0061.0064.2215.0073.0032,0070.0073",
  "33B1=006E.0073,03BC.0073,006D.0073,0070.0076 33B5=006E.0076,03BC.0076,006D.0076,006B.0076",
  "33B9=006D.0076,0070.0077,006E.0077,03BC.0077 33BD=006D.0077,006B.0077,006D.0077,006B.03C9",
  "33C1=006D.03C9 33C3=0062.0071,0063.0063,0063.0064 33C6=0063.2215.006B.0067",
  "33C8=0064.0062,0067.0079,0068.0061,0068.0070 33CC=0069.006E,006B.006B,006B.006D,006B.0074",
  "33D0=006C.006D,006C.006E,006C.006F.0067 33D3=006C.0078,006D.0062,006D.0069.006C",
  "33D6=006D.006F.006C,0070.0068 33D9=0070.0070.006D,0070.0072,0073.0072",
  "33DC=0073.0076,0077.0062,0076.2215.006D 33DF=0061.2215.006D,0031.65E5,0032.65E5",
  "33E2=0033.65E5,0034.65E5,0035.65E5,0036.65E5 33E6=0037.65E5,0038.65E5,0039.65E5",
  "33E9=0031.0030.65E5,0031.0031.65E5 33EB=0031.0032.65E5,0031.0033.65E5",
  "33ED=0031.0034.65E5,0031.0035.65E5 33EF=0031.0036.65E5,0031.0037.65E5",
  "33F1=0031.0038.65E5,0031.0039.65E5 33F3=0032.0030.65E5,0032.0031.65E5",
  "33F5=0032.0032.65E5,0032.0033.65E5 33F7=0032.0034.65E5,0032.0035.65E5",
  "33F9=0032.0036.65E5,0032.0037.65E5 33FB=0032.0038.65E5,0032.0039.65E5",
  "33FD=0033.0030.65E5,0033.0031.65E5 33FF=0067.0061.006C A640-A66C/2=A641 A680-A69A/2=A681",
  "A69C=044A,044C A722-A72E/2=A723 A732-A76E/2=A733 A770=A76F A779=A77A A77B=A77C A77D=1D79",
  "A77E-A786/2=A77F A78B=A78C A78D=0265 A790=A791 A792=A793 A796-A7A8/2=A797",
  "A7AA=0266,025C,0261,026C,026A A7B0=029E,0287,029D,AB53 A7B4-A7C2/2=A7B5",
  "A7C4=A794,0282,1D8E,A7C8 A7C9=A7CA A7CB=0264 A7CC-A7DA/2=A7CD A7DC=019B",
  "A7F1=0073,0063,0066,0071,A7F6 A7F8=0127,0153 AB5C=A727,AB37,026B,AB52 AB69=028D AB70-ABBF=13A0",
  "F900=8C48,66F4,8ECA,8CC8,6ED1,4E32,53E5,9F9C F908=9F9C,5951,91D1,5587,5948,61F6,7669,7F85",
  "F910=863F,87BA,88F8,908F,6A02,6D1B,70D9,73DE F918=843D,916A,99F1,4E82,5375,6B04,721B,862D",
  "F920=9E1E,5D50,6FEB,85CD,8964,62C9,81D8,881F F928=5ECA,6717,6D6A,72FC,90CE,4F86,51B7,52DE",
  "F930=64C4,6AD3,7210,76E7,8001,8606,865C,8DEF F938=9732,9B6F,9DFA,788C,797F,7DA0,83C9,9304",
  "F940=9E7F,8AD6,58DF,5F04,7C60,807E,7262,78CA F948=8CC2,96F7,58D8,5C62,6A13,6DDA,6F0F,7D2F",
  "F950=7E37,964B,52D2,808B,51DC,51CC,7A1C,7DBE F958=83F1,9675,8B80,62CF,6A02,8AFE,4E39,5BE7",
  "F960=6012,7387,7570,5317,78FB,4FBF,5FA9,4E0D F968=6CCC,6578,7D22,53C3,585E,7701,8449,8AAA",
  "F970=6BBA,8FB0,6C88,62FE,82E5,63A0,7565,4EAE F978=5169,51C9,6881,7CE7,826F,8AD2,91CF,52F5",
  "F980=5442,5973,5EEC,65C5,6FFE,792A,95AD,9A6A F988=9E97,9ECE,529B,66C6,6B77,8F62,5E74,6190",
  "F990=6200,649A,6F23,7149,7489,79CA,7DF4,806F F998=8F26,84EE,9023,934A,5217,52A3,54BD,70C8",
  "F9A0=88C2,8AAA,5EC9,5FF5,637B,6BAE,7C3E,7375 F9A8=4EE4,56F9,5BE7,5DBA,601C,73B2,7469,7F9A",
  "F9B0=8046,9234,96F6,9748,9818,4F8B,79AE,91B4 F9B8=96B8,60E1,4E86,50DA,5BEE,5C3F,6599,6A02",
  "F9C0=71CE,7642,84FC,907C,9F8D,6688,962E,5289 F9C8=677B,67F3,6D41,6E9C,7409,7559,786B,7D10",
  "F9D0=985E,516D,622E,9678,502B,5D19,6DEA,8F2A F9D8=5F8B,6144,6817,7387,9686,5229,540F,5C65",
  "F9E0=6613,674E,68A8,6CE5,7406,75E2,7F79,88CF F9E8=88E1,91CC,96E2,533F,6EBA,541D,71D0,7498",
  "F9F0=85FA,96A3,9C57,9E9F,6797,6DCB,81E8,7ACB F9F8=7B20,7C92,72C0,7099,8B58,4EC0,8336,523A",
  "FA00=5207,5EA6,62D3,7CD6,5B85,6D1E,66B4,8F3B FA08=884C,964D,898B,5ED3,5140,55C0 FA10=585A",
  "FA12=6674 FA15=51DE,732A,76CA,793C,795E,7965,798F,9756 FA1D=7CBE,7FBD FA20=8612 FA22=8AF8",
  "FA25=9038,90FD FA2A=98EF,98FC,9928,9DB4,90DE,96B7,4FAE,50E7",
  "FA32=514D,52C9,52E4,5351,559D,5606,5668,5840 FA3A=58A8,5C64,5C6E,6094,6168,618E,61F2,654F",
  "FA42=65E2,6691,6885,6D77,6E1A,6F22,716E,722B FA4A=7422,7891,793E,7949,7948,7950,7956,795D",
  "FA52=798D,798E,7A40,7A81,7BC0,7DF4,7E09,7E41 FA5A=7F72,8005,81ED,8279,8279,8457,8910,8996",
  "FA62=8B01,8B39,8CD3,8D08,8FB6,9038,96E3,97FF FA6A=983B,6075,242EE,8218",
  "FA70=4E26,51B5,5168,4F80,5145,5180,52C7,52FA FA78=559D,5555,5599,55E2,585A,58B3,5944,5954",
  "FA80=5A62,5B28,5ED2,5ED9,5F69,5FAD,60D8,614E FA88=6108,618E,6160,61F2,6234,63C4,641C,6452",
  "FA90=6556,6674,6717,671B,6756,6B79,6BBA,6D41 FA98=6EDB,6ECB,6F22,701E,716E,77A7,7235,72AF",
  "FAA0=732A,7471,7506,753B,761D,761F,76CA,76DB FAA8=76F4,774A,7740,78CC,7AB1,7BC0,7C7B,7D5B",
  "FAB0=7DF4,7F3E,8005,8352,83EF,8779,8941,8986 FAB8=8996,8ABF,8AF8,8ACB,8B01,8AFE,8AED,8B39",
  "FAC0=8B8A,8D08,8F38,9072,9199,9276,967C,96E3 FAC8=9756,97DB,97FF,980B,983B,9B12,9F9C",
  "FACF=2284A,22844,233D5,3B9D,4018,4039,25249 FAD6=25CD0,27ED3,9F43,9F8E",
  "FB00=0066.0066,0066.0069,0066.006C FB03=0066.0066.0069,0066.0066.006C,0073.0074 FB06=0073.0074",
  "FB13=0574.0576,0574.0565,0574.056B,057E.0576 FB17=0574.056D FB1D=05D9.05B4",
  "FB1F=05F2.05B7,05E2,05D0,05D3,05D4 FB24-FB26=05DB FB27=05E8,05EA,002B,05E9.05C1,05E9.05C2",
  "FB2C=05E9.05BC.05C1,05E9.05BC.05C2,05D0.05B7 FB2F=05D0.05B8,05D0.05BC,05D1.05BC,05D2.05BC",
  "FB33=05D3.05BC,05D4.05BC,05D5.05BC,05D6.05BC FB38=05D8.05BC,05D9.05BC,05DA.05BC,05DB.05BC",
  "FB3C=05DC.05BC FB3E=05DE.05BC FB40=05E0.05BC,05E1.05BC FB43=05E3.05BC,05E4.05BC",
  "FB46=05E6.05BC,05E7.05BC,05E8.05BC,05E9.05BC FB4A=05EA.05BC,05D5.05B9,05D1.05BF,05DB.05BF",
  "FB4E=05E4.05BF,05D0.05DC,0671,0671,067B,067B FB54=067B,067B,067E,067E,067E,067E,0680,0680",
  "FB5C=0680,0680,067A,067A,067A,067A,067F,067F FB64=067F,067F,0679,0679,0679,0679,06A4,06A4",
  "FB6C=06A4,06A4,06A6,06A6,06A6,06A6,0684,0684 FB74=0684,0684,0683,0683,0683,0683,0686,0686",
  "FB7C=0686,0686,0687,0687,0687,0687,068D,068D FB84=068C,068C,068E,068E,0688,0688,0698,0698",
  "FB8C=0691,0691,06A9,06A9,06A9,06A9,06AF,06AF FB94=06AF,06AF,06B3,06B3,06B3,06B3,06B1,06B1",
  "FB9C=06B1,06B1,06BA,06BA,06BB,06BB,06BB,06BB FBA4=06C0,06C0,06C1,06C1,06C1,06C1,06BE,06BE",
  "FBAC=06BE,06BE,06D2,06D2,06D3,06D3 FBD3=06AD,06AD,06AD,06AD,06C7,06C7,06C6,06C6",
  "FBDB=06C8,06C8,06C7.0674,06CB,06CB,06C5,06C5 FBE2=06C9,06C9,06D0,06D0,06D0,06D0,0649,0649",
  "FBEA=0626.0627,0626.0627,0626.06D5,0626.06D5 FBEE=0626.0648,0626.0648,0626.06C7,0626.06C7",
  "FBF2=0626.06C6,0626.06C6,0626.06C8,0626.06C8 FBF6=0626.06D0,0626.06D0,0626.06D0,0626.0649",
  "FBFA=0626.0649,0626.0649,06CC,06CC,06CC,06CC FC00=0626.062C,0626.062D,0626.0645,0626.0649",
  "FC04=0626.064A,0628.062C,0628.062D,0628.062E FC08=0628.0645,0628.0649,0628.064A,062A.062C",
  "FC0C=062A.062D,062A.062E,062A.0645,062A.0649 FC10=062A.064A,062B.062C,062B.0645,062B.0649",
  "FC14=062B.064A,062C.062D,062C.0645,062D.062C FC18=062D.0645,062E.062C,062E.062D,062E.0645",
  "FC1C=0633.062C,0633.062D,0633.062E,0633.0645 FC20=0635.062D,0635.0645,0636.062C,0636.062D",
  "FC24=0636.062E,0636.0645,0637.062D,0637.0645 FC28=0638.0645,0639.062C,0639.0645,063A.062C",
  "FC2C=063A.0645,0641.062C,0641.062D,0641.062E FC30=0641.0645,0641.0649,0641.064A,0642.062D",
  "FC34=0642.0645,0642.0649,0642.064A,0643.0627 FC38=0643.062C,0643.062D,0643.062E,0643.0644",
  "FC3C=0643.0645,0643.0649,0643.064A,0644.062C FC40=0644.062D,0644.062E,0644.0645,0644.0649",
  "FC44=0644.064A,0645.062C,0645.062D,0645.062E FC48=0645.0645,0645.0649,0645.064A,0646.062C",
  "FC4C=0646.062D,0646.062E,0646.0645,0646.0649 FC50=0646.064A,0647.062C,0647.0645,0647.0649",
  "FC54=0647.064A,064A.062C,064A.062D,064A.062E FC58=064A.0645,064A.0649,064A.064A,0630.0670",
  "FC5C=0631.0670,0649.0670,0020.064C.0651 FC5F=0020.064D.0651,0020.064E.0651",
  "FC61=0020.064F.0651,0020.0650.0651 FC63=0020.0651.0670,0626.0631,0626.0632",
  "FC66=0626.0645,0626.0646,0626.0649,0626.064A FC6A=0628.0631,0628.0632,0628.0645,0628.0646",
  "FC6E=0628.0649,0628.064A,062A.0631,062A.0632 FC72=062A.0645,062A.0646,062A.0649,062A.064A",
  "FC76=062B.0631,062B.0632,062B.0645,062B.0646 FC7A=062B.0649,062B.064A,0641.0649,0641.064A",
  "FC7E=0642.0649,0642.064A,0643.0627,0643.0644 FC82=0643.0645,0643.0649,0643.064A,0644.0645",
  "FC86=0644.0649,0644.064A,0645.0627,0645.0645 FC8A=0646.0631,0646.0632,0646.0645,0646.0646",
  "FC8E=0646.0649,0646.064A,0649.0670,064A.0631 FC92=064A.0632,064A.0645,064A.0646,064A.0649",
  "FC96=064A.064A,0626.062C,0626.062D,0626.062E FC9A=0626.0645,0626.0647,0628.062C,0628.062D",
  "FC9E=0628.062E,0628.0645,0628.0647,062A.062C FCA2=062A.062D,062A.062E,062A.0645,062A.0647",
  "FCA6=062B.0645,062C.062D,062C.0645,062D.062C FCAA=062D.0645,062E.062C,062E.0645,0633.062C",
  "FCAE=0633.062D,0633.062E,0633.0645,0635.062D FCB2=0635.062E,0635.0645,0636.062C,0636.062D",
  "FCB6=0636.062E,0636.0645,0637.062D,0638.0645 FCBA=0639.062C,0639.0645,063A.062C,063A.0645",
  "FCBE=0641.062C,0641.062D,0641.062E,0641.0645 FCC2=0642.062D,0642.0645,0643.062C,0643.062D",
  "FCC6=0643.062E,0643.0644,0643.0645,0644.062C FCCA=0644.062D,0644.062E,0644.0645,0644.0647",
  "FCCE=0645.062C,0645.062D,0645.062E,0645.0645 FCD2=0646.062C,0646.062D,0646.062E,0646.0645",
  "FCD6=0646.0647,0647.062C,0647.0645,0647.0670 FCDA=064A.062C,064A.062D,064A.062E,064A.0645",
  "FCDE=064A.0647,0626.0645,0626.0647,0628.0645 FCE2=0628.0647,062A.0645,062A.0647,062B.0645",
  "FCE6=062B.0647,0633.0645,0633.0647,0634.0645 FCEA=0634.0647,0643.0644,0643.0645,0644.0645",
  "FCEE=0646.0645,0646.0647,064A.0645,064A.0647 FCF2=0640.064E.0651,0640.064F.0651",
  "FCF4=0640.0650.0651,0637.0649,0637.064A FCF7=0639.0649,0639.064A,063A.0649,063A.064A",
  "FCFB=0633.0649,0633.064A,0634.0649,0634.064A FCFF=062D.0649,062D.064A,062C.0649,062C.064A",
  "FD03=062E.0649,062E.064A,0635.0649,0635.064A FD07=0636.0649,0636.064A,0634.062C,0634.062D",
  "FD0B=0634.062E,0634.0645,0634.0631,0633.0631 FD0F=0635.0631,0636.0631,0637.0649,0637.064A",
  "FD13=0639.0649,0639.064A,063A.0649,063A.064A FD17=0633.0649,0633.064A,0634.0649,0634.064A",
  "FD1B=062D.0649,062D.064A,062C.0649,062C.064A FD1F=062E.0649,062E.064A,0635.0649,0635.064A",
  "FD23=0636.0649,0636.064A,0634.062C,0634.062D FD27=0634.062E,0634.0645,0634.0631,0633.0631",
  "FD2B=0635.0631,0636.0631,0634.062C,0634.062D FD2F=0634.062E,0634.0645,0633.0647,0634.0647",
  "FD33=0637.0645,0633.062C,0633.062D,0633.062E FD37=0634.062C,0634.062D,0634.062E,0637.0645",
  "FD3B=0638.0645,0627.064B,0627.064B FD50=062A.062C.0645,062A.062D.062C",
  "FD52=062A.062D.062C,062A.062D.0645 FD54=062A.062E.0645,062A.0645.062C",
  "FD56=062A.0645.062D,062A.0645.062E FD58=062C.0645.062D,062C.0645.062D",
  "FD5A=062D.0645.064A,062D.0645.0649 FD5C=0633.062D.062C,0633.062C.062D",
  "FD5E=0633.062C.0649,0633.0645.062D FD60=0633.0645.062D,0633.0645.062C",
  "FD62=0633.0645.0645,0633.0645.0645 FD64=0635.062D.062D,0635.062D.062D",
  "FD66=0635.0645.0645,0634.062D.0645 FD68=0634.062D.0645,0634.062C.064A",
  "FD6A=0634.0645.062E,0634.0645.062E FD6C=0634.0645.0645,0634.0645.0645",
  "FD6E=0636.062D.0649,0636.062E.0645 FD70=0636.062E.0645,0637.0645.062D",
  "FD72=0637.0645.062D,0637.0645.0645 FD74=0637.0645.064A,0639.062C.0645",
  "FD76=0639.0645.0645,0639.0645.0645 FD78=0639.0645.0649,063A.0645.0645",
  "FD7A=063A.0645.064A,063A.0645.0649 FD7C=0641.062E.0645,0641.062E.0645",
  "FD7E=0642.0645.062D,0642.0645.0645 FD80=0644.062D.0645,0644.062D.064A",
  "FD82=0644.062D.0649,0644.062C.062C FD84=0644.062C.062C,0644.062E.0645",
  "FD86=0644.062E.0645,0644.0645.062D FD88=0644.0645.062D,0645.062D.062C",
  "FD8A=0645.062D.0645,0645.062D.064A FD8C=0645.062C.062D,0645.062C.0645",
  "FD8E=0645.062E.062C,0645.062E.0645 FD92=0645.062C.062E,0647.0645.062C",
  "FD94=0647.0645.0645,0646.062D.0645 FD96=0646.062D.0649,0646.062C.0645",
  "FD98=0646.062C.0645,0646.062C.0649 FD9A=0646.0645.064A,0646.0645.0649",
  "FD9C=064A.0645.0645,064A.0645.0645 FD9E=0628.062E.064A,062A.062C.064A",
  "FDA0=062A.062C.0649,062A.062E.064A FDA2=062A.062E.0649,062A.0645.064A",
  "FDA4=062A.0645.0649,062C.0645.064A FDA6=062C.062D.0649,062C.0645.0649",
  "FDA8=0633.062E.0649,0635.062D.064A FDAA=0634.062D.064A,0636.062D.064A",
  "FDAC=0644.062C.064A,0644.0645.064A FDAE=064A.062D.064A,064A.062C.064A",
  "FDB0=064A.0645.064A,0645.0645.064A FDB2=0642.0645.064A,0646.062D.064A",
  "FDB4=0642.0645.062D,0644.062D.0645 FDB6=0639.0645.064A,0643.0645.064A",
  "FDB8=0646.062C.062D,0645.062E.064A FDBA=0644.062C.0645,0643.0645.0645",
  "FDBC=0644.062C.0645,0646.062C.062D FDBE=062C.062D.064A,062D.062C.064A",
  "FDC0=0645.062C.064A,0641.0645.064A FDC2=0628.062D.064A,0643.0645.0645",
  "FDC4=0639.062C.0645,0635.0645.0645 FDC6=0633.062E.064A,0646.062C.064A",
  "FDF0=0635.0644.06D2,0642.0644.06D2 FDF2=0627.0644.0644.0647,0627.0643.0628.0631",
  "FDF4=0645.062D.0645.062F,0635.0644.0639.0645 FDF6=0631.0633.0648.0644,0639.0644.064A.0647",
  "FDF8=0648.0633.0644.0645,0635.0644.0649",
  "FDFA=0635.0644.0649.0020.0627.0644.0644.0647.0020.0639.0644.064A.0647.0020.0648.0633.0644.0645",
  "FDFB=062C.0644.0020.062C.0644.0627.0644.0647 FDFC=0631.06CC.0627.0644 FE10=002C,3001",
  "FE13=003A,003B,0021,003F,3016,3017 FE31=2014,2013,005F,005F,0028,0029,007B,007D",
  "FE39=3014,3015,3010,3011,300A,300B,3008,3009 FE41-FE44=300C",
  "FE47=005B,005D,0020.0305,0020.0305,0020.0305 FE4C=0020.0305,005F,005F,005F,002C,3001",
  "FE54=003B,003A,003F,0021,2014,0028,0029,007B FE5C=007D,3014,3015,0023,0026,002A,002B,002D",
  "FE64=003C,003E,003D FE68=005C,0024,0025,0040 FE70=0020.064B,0640.064B,0020.064C FE74=0020.064D",
  "FE76=0020.064E,0640.064E,0020.064F,0640.064F FE7A=0020.0650,0640.0650,0020.0651,0640.0651",
  "FE7E=0020.0652,0640.0652,0621,0622,0622,0623 FE84=0623,0624,0624,0625,0625,0626,0626,0626",
  "FE8C=0626,0627,0627,0628,0628,0628,0628,0629 FE94=0629,062A,062A,062A,062A,062B,062B,062B",
  "FE9C=062B,062C,062C,062C,062C,062D,062D,062D FEA4=062D,062E,062E,062E,062E,062F,062F,0630",
  "FEAC=0630,0631,0631,0632,0632,0633,0633,0633 FEB4=0633,0634,0634,0634,0634,0635,0635,0635",
  "FEBC=0635,0636,0636,0636,0636,0637,0637,0637 FEC4=0637,0638,0638,0638,0638,0639,0639,0639",
  "FECC=0639,063A,063A,063A,063A,0641,0641,0641 FED4=0641,0642,0642,0642,0642,0643,0643,0643",
  "FEDC=0643,0644,0644,0644,0644,0645,0645,0645 FEE4=0645,0646,0646,0646,0646,0647,0647,0647",
  "FEEC=0647,0648,0648,0649,0649,064A,064A,064A FEF4=064A,0644.0622,0644.0622,0644.0623",
  "FEF8=0644.0623,0644.0625,0644.0625,0644.0627 FEFC=0644.0627 FF01-FF20=0021 FF21-FF3A=0061",
  "FF3B-FF5E=005B FF5F=2985,2986,002E,300C,300D,3001,30FB,30F2",
  "FF67=30A1,30A3,30A5,30A7,30A9,30E3,30E5,30E7 FF6F=30C3,30FC,30A2,30A4,30A6,30A8,30AA,30AB",
  "FF77=30AD,30AF,30B1,30B3,30B5,30B7,30B9,30BB FF7F=30BD,30BF,30C1,30C4,30C6,30C8 FF85-FF8A=30CA",
  "FF8B=30D2,30D5,30D8,30DB FF8F-FF93=30DE FF94=30E4,30E6 FF96-FF9B=30E8 FF9C=30EF,30F3,3099,309A",
  "FFA1=1100,1101,11AA,1102,11AC,11AD FFA7-FFA9=1103 FFAA-FFAF=11B0 FFB0=111A FFB1-FFB3=1106",
  "FFB4=1121 FFB5-FFBE=1109 FFC2-FFC7=1161 FFCA-FFCF=1167 FFD2-FFD7=116D FFDA-FFDC=1173",
  "FFE0=00A2,00A3,00AC,0020.0304,00A6,00A5,20A9 FFE8=2502 FFE9-FFEC=2190 FFED=25A0,25CB",
  "10400-10427=10428 104B0-104D3=104D8 10570-1057A=10597 1057C-1058A=105A3 1058C-10592=105B3",
  "10594=105BB,105BC 10781=02D0,02D1,00E6,0299,0253 10787=02A3,AB66,02A5,02A4,0256,0257,1D91",
  "1078E=0258,025E,02A9,0264,0262,0260,029B 10795=0127,029C,0267,0284,02AA,02AB,026C",
  "1079C=1DF04,A78E,026E,1DF05,028E,1DF06,00F8 107A3=0276,0277,0071,027A,1DF08,027D,027E",
  "107AA=0280,02A8,02A6,AB67,02A7,0288,2C71 107B2=028F,02A1,02A2,0298 107B6-107B8=01C0",
  "107B9=1DF0A,1DF1E 10C80-10CB2=10CC0 10D50-10D65=10D70 118A0-118BF=118C0 16E40-16E5F=16E60",
  "16EA0-16EB8=16EBB 1CCD6-1CCEF=0061 1CCF0-1CCF9=0030 1D15E=1D157.1D165,1D158.1D165",
  "1D160=1D158.1D165.1D16E,1D158.1D165.1D16F 1D162=1D158.1D165.1D170,1D158.1D165.1D171",
  "1D164=1D158.1D165.1D172 1D1BB=1D1B9.1D165,1D1BA.1D165 1D1BD=1D1B9.1D165.1D16E,1D1BA.1D165.1D16E",
  "1D1BF=1D1B9.1D165.1D16F,1D1BA.1D165.1D16F 1D400-1D419=0061 1D41A-1D433=0061 1D434-1D44D=0061",
  "1D44E-1D454=0061 1D456-1D467=0069 1D468-1D481=0061 1D482-1D49B=0061 1D49C=0061 1D49E=0063,0064",
  "1D4A2=0067 1D4A5=006A,006B 1D4A9-1D4AC=006E 1D4AE-1D4B5=0073 1D4B6-1D4B9=0061 1D4BB=0066",
  "1D4BD-1D4C3=0068 1D4C5-1D4CF=0070 1D4D0-1D4E9=0061 1D4EA-1D503=0061 1D504=0061,0062",
  "1D507-1D50A=0064 1D50D-1D514=006A 1D516-1D51C=0073 1D51E-1D537=0061 1D538=0061,0062",
  "1D53B-1D53E=0064 1D540-1D544=0069 1D546=006F 1D54A-1D550=0073 1D552-1D56B=0061 1D56C-1D585=0061",
  "1D586-1D59F=0061 1D5A0-1D5B9=0061 1D5BA-1D5D3=0061 1D5D4-1D5ED=0061 1D5EE-1D607=0061",
  "1D608-1D621=0061 1D622-1D63B=0061 1D63C-1D655=0061 1D656-1D66F=0061 1D670-1D689=0061",
  "1D68A-1D6A3=0061 1D6A4=0131,0237 1D6A8-1D6B8=03B1 1D6B9=03B8 1D6BA-1D6C0=03C3 1D6C1=2207",
  "1D6C2-1D6D2=03B1 1D6D3=03C3 1D6D4-1D6DA=03C3 1D6DB=2202,03B5,03B8,03BA,03C6,03C1,03C0",
  "1D6E2-1D6F2=03B1 1D6F3=03B8 1D6F4-1D6FA=03C3 1D6FB=2207 1D6FC-1D70C=03B1 1D70D=03C3",
  "1D70E-1D714=03C3 1D715=2202,03B5,03B8,03BA,03C6,03C1,03C0 1D71C-1D72C=03B1 1D72D=03B8",
  "1D72E-1D734=03C3 1D735=2207 1D736-1D746=03B1 1D747=03C3 1D748-1D74E=03C3",
  "1D74F=2202,03B5,03B8,03BA,03C6,03C1,03C0 1D756-1D766=03B1 1D767=03B8 1D768-1D76E=03C3",
  "1D76F=2207 1D770-1D780=03B1 1D781=03C3 1D782-1D788=03C3",
  "1D789=2202,03B5,03B8,03BA,03C6,03C1,03C0 1D790-1D7A0=03B1 1D7A1=03B8 1D7A2-1D7A8=03C3",
  "1D7A9=2207 1D7AA-1D7BA=03B1 1D7BB=03C3 1D7BC-1D7C2=03C3",
  "1D7C3=2202,03B5,03B8,03BA,03C6,03C1,03C0 1D7CA=03DD,03DD 1D7CE-1D7D7=0030 1D7D8-1D7E1=0030",
  "1D7E2-1D7EB=0030 1D7EC-1D7F5=0030 1D7F6-1D7FF=0030 1E030-1E038=0430 1E039-1E03B=043A",
  "1E03C-1E046=043E 1E047=044B,044D,044E,A689,04D9,0456,0458 1E04E=04E9,04AF,04CF 1E051-1E059=0430",
  "1E05A=043A,043B,043E,043F,0441 1E05F-1E064=0443 1E065=044A,044B,0491,0456,0455,045F,04AB",
  "1E06C=A651,04B1 1E900-1E921=1E922 1EE00=0627,0628,062C,062F 1EE05=0648,0632,062D,0637,064A",
  "1EE0A-1EE0D=0643 1EE0E=0633,0639,0641,0635,0642,0631,0634",
  "1EE15=062A,062B,062E,0630,0636,0638,063A 1EE1C=066E,06BA,06A1,066F 1EE21=0628,062C 1EE24=0647",
  "1EE27=062D 1EE29=064A 1EE2A-1EE2D=0643 1EE2E=0633,0639,0641,0635,0642 1EE34=0634,062A,062B,062E",
  "1EE39=0636 1EE3B=063A 1EE42=062C 1EE47=062D 1EE49=064A 1EE4B=0644 1EE4D=0646,0633,0639",
  "1EE51=0635,0642 1EE54=0634 1EE57=062E 1EE59=0636 1EE5B=063A 1EE5D=06BA 1EE5F=066F",
  "1EE61=0628,062C 1EE64=0647 1EE67=062D,0637,064A,0643 1EE6C=0645,0646,0633,0639,0641,0635,0642",
  "1EE74=0634,062A,062B,062E 1EE79=0636,0638,063A,066E 1EE7E=06A1",
  "1EE80=0627,0628,062C,062F,0647,0648,0632 1EE87=062D,0637,064A 1EE8B-1EE8D=0644",
  "1EE8E=0633,0639,0641,0635,0642,0631,0634 1EE95=062A,062B,062E,0630,0636,0638,063A",
  "1EEA1=0628,062C,062F 1EEA5=0648,0632,062D,0637,064A 1EEAB-1EEAD=0644",
  "1EEAE=0633,0639,0641,0635,0642,0631,0634 1EEB5=062A,062B,062E,0630,0636,0638,063A",
  "1F101=0030.002C,0031.002C,0032.002C 1F104=0033.002C,0034.002C,0035.002C",
  "1F107=0036.002C,0037.002C,0038.002C 1F10A=0039.002C 1F110=0028.0061.0029,0028.0062.0029",
  "1F112=0028.0063.0029,0028.0064.0029 1F114=0028.0065.0029,0028.0066.0029",
  "1F116=0028.0067.0029,0028.0068.0029 1F118=0028.0069.0029,0028.006A.0029",
  "1F11A=0028.006B.0029,0028.006C.0029 1F11C=0028.006D.0029,0028.006E.0029",
  "1F11E=0028.006F.0029,0028.0070.0029 1F120=0028.0071.0029,0028.0072.0029",
  "1F122=0028.0073.0029,0028.0074.0029 1F124=0028.0075.0029,0028.0076.0029",
  "1F126=0028.0077.0029,0028.0078.0029 1F128=0028.0079.0029,0028.007A.0029",
  "1F12A=3014.0073.3015,0063,0072,0063.0064 1F12E=0077.007A 1F130-1F149=0061",
  "1F14A=0068.0076,006D.0076,0073.0064 1F14D=0073.0073,0070.0070.0076,0077.0063",
  "1F16A=006D.0063,006D.0064,006D.0072 1F190=0064.006A 1F200=307B.304B,30B3.30B3,30B5",
  "1F210=624B,5B57,53CC,30C7,4E8C,591A,89E3 1F217=5929,4EA4,6620,7121,6599,524D,5F8C",
  "1F21E=518D,65B0,521D,7D42,751F,8CA9,58F0 1F225=5439,6F14,6295,6355,4E00,4E09,904A",
  "1F22C=5DE6,4E2D,53F3,6307,8D70,6253,7981 1F233=7A7A,5408,6E80,6709,6708,7533,5272",
  "1F23A=55B6,914D 1F240=3014.672C.3015,3014.4E09.3015 1F242=3014.4E8C.3015,3014.5B89.3015",
  "1F244=3014.70B9.3015,3014.6253.3015 1F246=3014.76D7.3015,3014.52DD.3015 1F248=3014.6557.3015",
  "1F250=5F97,53EF 1FBF0-1FBF9=0030 2F800=4E3D,4E38,4E41,20122,4F60,4FAE,4FBB",
  "2F807=5002,507A,5099,50E7,50CF,349E,2063A 2F80E=514D,5154,5164,5177,2051C,34B9,5167",
  "2F815=518D,2054B,5197,51A4,4ECC,51AC,51B5 2F81C=291DF,51F5,5203,34DF,523B,5246,5272",
  "2F823=5277,3515,52C7,52C9,52E4,52FA,5305 2F82A=5306,5317,5349,5351,535A,5373,537D",
  "2F831=537F,537F,537F,20A2C,7070,53CA,53DF 2F838=20B63,53EB,53F1,5406,549E,5438,5448",
  "2F83F=5468,54A2,54F6,5510,5553,5563,5584 2F846=5584,5599,55AB,55B3,55C2,5716,5606",
  "2F84D=5717,5651,5674,5207,58EE,57CE,57F4 2F854=580D,578B,5832,5831,58AC,214E4,58F2",
  "2F85B=58F7,5906,591A,5922,5962,216A8,216EA 2F862=59EC,5A1B,5A27,59D8,5A66,36EE,36FC",
  "2F869=5B08,5B3E,5B3E,219C8,5BC3,5BD8,5BE7 2F870=5BF3,21B18,5BFF,5C06,5F53,5C22,3781",
  "2F877=5C60,5C6E,5CC0,5C8D,21DE4,5D43,21DE6 2F87E=5D6E,5D6B,5D7C,5DE1,5DE2,382F,5DFD",
  "2F885=5E28,5E3D,5E69,3862,22183,387C,5EB0 2F88C=5EB3,5EB6,5ECA,2A392,5EFE,22331,22331",
  "2F893=8201,5F22,5F22,38C7,232B8,261DA,5F62 2F89A=5F6B,38E3,5F9A,5FCD,5FD7,5FF9,6081",
  "2F8A1=393A,391C,6094,226D4,60C7,6148,614C 2F8A8=614E,614C,617A,618E,61B2,61A4,61AF",
  "2F8AF=61DE,61F2,61F6,6210,621B,625D,62B1 2F8B6=62D4,6350,22B0C,633D,62FC,6368,6383",
  "2F8BD=63E4,22BF1,6422,63C5,63A9,3A2E,6469 2F8C4=647E,649D,6477,3A6C,654F,656C,2300A",
  "2F8CB=65E3,66F8,6649,3B19,6691,3B08,3AE4 2F8D2=5192,5195,6700,669C,80AD,43D9,6717",
  "2F8D9=671B,6721,675E,6753,233C3,3B49,67FA 2F8E0=6785,6852,6885,2346D,688E,681F,6914",
  "2F8E7=3B9D,6942,69A3,69EA,6AA8,236A3,6ADB 2F8EE=3C18,6B21,238A7,6B54,3C4E,6B72,6B9F",
  "2F8F5=6BBA,6BBB,23A8D,21D0B,23AFA,6C4E,23CBC 2F8FC=6CBF,6CCD,6C67,6D16,6D3E,6D77,6D41",
  "2F903=6D69,6D78,6D85,23D1E,6D34,6E2F,6E6E 2F90A=3D33,6ECB,6EC7,23ED1,6DF9,6F6E,23F5E",
  "2F911=23F8E,6FC6,7039,701E,701B,3D96,704A 2F918=707D,7077,70AD,20525,7145,24263,719C",
  "2F91F=243AB,7228,7235,7250,24608,7280,7295 2F926=24735,24814,737A,738B,3EAC,73A5,3EB8",
  "2F92D=3EB8,7447,745C,7471,7485,74CA,3F1B 2F934=7524,24C36,753E,24C92,7570,2219F,7610",
  "2F93B=24FA1,24FB8,25044,3FFC,4008,76F4,250F3 2F942=250F2,25119,25133,771E,771F,771F,774A",
  "2F949=4039,778B,4046,4096,2541D,784E,788C 2F950=78CC,40E3,25626,7956,2569A,256C5,798F",
  "2F957=79EB,412F,7A40,7A4A,7A4F,2597C,25AA7 2F95E=25AA7,7AEE,4202,25BAB,7BC6,7BC9,4227",
  "2F965=25C80,7CD2,42A0,7CE8,7CE3,7D00,25F86 2F96C=7D63,4301,7DC7,7E02,7E45,4334,26228",
  "2F973=26247,4359,262D9,7F7A,2633E,7F95,7FFA 2F97A=8005,264DA,26523,8060,265A8,8070,2335F",
  "2F981=43D5,80B2,8103,440B,813E,5AB5,267A7 2F988=267B5,23393,2339C,8201,8204,8F9E,446B",
  "2F98F=8291,828B,829D,52B3,82B1,82B3,82BD 2F996=82E6,26B3C,82E5,831D,8363,83AD,8323",
  "2F99D=83BD,83E7,8457,8353,83CA,83CC,83DC 2F9A4=26C36,26D6B,26CD5,452B,84F1,84F3,8516",
  "2F9AB=273CA,8564,26F2C,455D,4561,26FB1,270D2 2F9B2=456B,8650,865C,8667,8669,86A9,8688",
  "2F9B9=870E,86E2,8779,8728,876B,8786,45D7 2F9C0=87E1,8801,45F9,8860,8863,27667,88D7",
  "2F9C7=88DE,4635,88FA,34BB,278AE,27966,46BE 2F9CE=46C7,8AA0,8AED,8B8A,8C55,27CA8,8CAB",
  "2F9D5=8CC1,8D1B,8D77,27F2F,20804,8DCB,8DBC 2F9DC=8DF0,208DE,8ED4,8F38,285D2,285ED,9094",
  "2F9E3=90F1,9111,2872E,911B,9238,92D7,92D8 2F9EA=927C,93F9,9415,28BFA,958B,4995,95B7",
  "2F9F1=28D77,49E6,96C3,5DB2,9723,29145,2921A 2F9F8=4A6E,4A76,97E0,2940A,4AB2,29496,980B",
  "2F9FF=980B,9829,295B6,98E2,4B33,9929,99A7 2FA06=99C2,99FE,4BCE,29B30,9B12,9C40,9CFD",
  "2FA0D=4CCE,4CED,9D67,2A0CE,4CF8,2A105,2A20E 2FA14=2A291,9EBB,4D56,9EF9,9EFE,9F05,9F0F",
  "2FA1B=9F16,9F3B,2A600"]

/-- What becomes of a character in a name; there is nothing for a character that no name may hold.
-/
def form? (c : Char) : Option (List Char) :=
  if c.toNat < 0x80 then some [c.toLower]
  else if refused.contains c then none
  else if dropped.contains c then some []
  else some ((replaced.find? c).getD [c])

/-- A character in ASCII becomes its small letter. -/
theorem form?_of_ascii {c : Char} (h : c.toNat < 0x80) : form? c = some [c.toLower] := if_pos h

/-- Whether a character stays as it is in a name. -/
def isKept (c : Char) : Bool := form? c == some [c]

end StreamRelay.Name
