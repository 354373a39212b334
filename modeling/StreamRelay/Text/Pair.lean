import StreamRelay.Text.CodeTable
import StreamRelay.Text.Syllable

/-!
# Characters made of others

Which two characters make up one, by the rule for Korean syllables and by a table for all others,
after the Unicode Character Database, version 17.0.

The characters that stand for one other character alone, and those that are left out of composition,
are not in the table: a name does not hold them once its characters have been replaced.
-/

namespace StreamRelay.Text

/-- The characters that are made of two. -/
def pairs : CodeMap := .ofLines [
  "00C0=0041.0300,0041.0301,0041.0302,0041.0303 00C4=0041.0308,0041.030A",
  "00C7=0043.0327,0045.0300,0045.0301,0045.0302 00CB=0045.0308,0049.0300,0049.0301,0049.0302",
  "00CF=0049.0308 00D1=004E.0303,004F.0300,004F.0301,004F.0302 00D5=004F.0303,004F.0308",
  "00D9=0055.0300,0055.0301,0055.0302,0055.0308 00DD=0059.0301",
  "00E0=0061.0300,0061.0301,0061.0302,0061.0303 00E4=0061.0308,0061.030A",
  "00E7=0063.0327,0065.0300,0065.0301,0065.0302 00EB=0065.0308,0069.0300,0069.0301,0069.0302",
  "00EF=0069.0308 00F1=006E.0303,006F.0300,006F.0301,006F.0302 00F5=006F.0303,006F.0308",
  "00F9=0075.0300,0075.0301,0075.0302,0075.0308 00FD=0079.0301",
  "00FF=0079.0308,0041.0304,0061.0304,0041.0306 0103=0061.0306,0041.0328,0061.0328,0043.0301",
  "0107=0063.0301,0043.0302,0063.0302,0043.0307 010B=0063.0307,0043.030C,0063.030C,0044.030C",
  "010F=0064.030C 0112=0045.0304,0065.0304,0045.0306,0065.0306",
  "0116=0045.0307,0065.0307,0045.0328,0065.0328 011A=0045.030C,0065.030C,0047.0302,0067.0302",
  "011E=0047.0306,0067.0306,0047.0307,0067.0307 0122=0047.0327,0067.0327,0048.0302,0068.0302",
  "0128=0049.0303,0069.0303,0049.0304,0069.0304 012C=0049.0306,0069.0306,0049.0328,0069.0328",
  "0130=0049.0307 0134=004A.0302,006A.0302,004B.0327,006B.0327",
  "0139=004C.0301,006C.0301,004C.0327,006C.0327 013D=004C.030C,006C.030C",
  "0143=004E.0301,006E.0301,004E.0327,006E.0327 0147=004E.030C,006E.030C",
  "014C=004F.0304,006F.0304,004F.0306,006F.0306 0150=004F.030B,006F.030B",
  "0154=0052.0301,0072.0301,0052.0327,0072.0327 0158=0052.030C,0072.030C,0053.0301,0073.0301",
  "015C=0053.0302,0073.0302,0053.0327,0073.0327 0160=0053.030C,0073.030C,0054.0327,0074.0327",
  "0164=0054.030C,0074.030C 0168=0055.0303,0075.0303,0055.0304,0075.0304",
  "016C=0055.0306,0075.0306,0055.030A,0075.030A 0170=0055.030B,0075.030B,0055.0328,0075.0328",
  "0174=0057.0302,0077.0302,0059.0302,0079.0302 0178=0059.0308,005A.0301,007A.0301,005A.0307",
  "017C=007A.0307,005A.030C,007A.030C 01A0=004F.031B,006F.031B 01AF=0055.031B,0075.031B",
  "01CD=0041.030C,0061.030C,0049.030C,0069.030C 01D1=004F.030C,006F.030C,0055.030C,0075.030C",
  "01D5=00DC.0304,00FC.0304,00DC.0301,00FC.0301 01D9=00DC.030C,00FC.030C,00DC.0300,00FC.0300",
  "01DE=00C4.0304,00E4.0304,0226.0304,0227.0304 01E2=00C6.0304,00E6.0304",
  "01E6=0047.030C,0067.030C,004B.030C,006B.030C 01EA=004F.0328,006F.0328,01EA.0304,01EB.0304",
  "01EE=01B7.030C,0292.030C,006A.030C 01F4=0047.0301,0067.0301",
  "01F8=004E.0300,006E.0300,00C5.0301,00E5.0301 01FC=00C6.0301,00E6.0301,00D8.0301,00F8.0301",
  "0200=0041.030F,0061.030F,0041.0311,0061.0311 0204=0045.030F,0065.030F,0045.0311,0065.0311",
  "0208=0049.030F,0069.030F,0049.0311,0069.0311 020C=004F.030F,006F.030F,004F.0311,006F.0311",
  "0210=0052.030F,0072.030F,0052.0311,0072.0311 0214=0055.030F,0075.030F,0055.0311,0075.0311",
  "0218=0053.0326,0073.0326,0054.0326,0074.0326 021E=0048.030C,0068.030C",
  "0226=0041.0307,0061.0307,0045.0327,0065.0327 022A=00D6.0304,00F6.0304,00D5.0304,00F5.0304",
  "022E=004F.0307,006F.0307,022E.0304,022F.0304 0232=0059.0304,0079.0304",
  "0385=00A8.0301,0391.0301 0388=0395.0301,0397.0301,0399.0301 038C=039F.0301",
  "038E=03A5.0301,03A9.0301,03CA.0301 03AA=0399.0308,03A5.0308,03B1.0301,03B5.0301",
  "03AE=03B7.0301,03B9.0301,03CB.0301 03CA=03B9.0308,03C5.0308,03BF.0301,03C5.0301",
  "03CE=03C9.0301 03D3=03D2.0301,03D2.0308 0400=0415.0300,0415.0308 0403=0413.0301",
  "0407=0406.0308 040C=041A.0301,0418.0300,0423.0306 0419=0418.0306 0439=0438.0306",
  "0450=0435.0300,0435.0308 0453=0433.0301 0457=0456.0308 045C=043A.0301,0438.0300,0443.0306",
  "0476=0474.030F,0475.030F 04C1=0416.0306,0436.0306",
  "04D0=0410.0306,0430.0306,0410.0308,0430.0308 04D6=0415.0306,0435.0306",
  "04DA=04D8.0308,04D9.0308,0416.0308,0436.0308 04DE=0417.0308,0437.0308",
  "04E2=0418.0304,0438.0304,0418.0308,0438.0308 04E6=041E.0308,043E.0308",
  "04EA=04E8.0308,04E9.0308,042D.0308,044D.0308 04EE=0423.0304,0443.0304,0423.0308,0443.0308",
  "04F2=0423.030B,0443.030B,0427.0308,0447.0308 04F8=042B.0308,044B.0308",
  "0622=0627.0653,0627.0654,0648.0654,0627.0655 0626=064A.0654 06C0=06D5.0654 06C2=06C1.0654",
  "06D3=06D2.0654 0929=0928.093C 0931=0930.093C 0934=0933.093C 09CB=09C7.09BE,09C7.09D7",
  "0B48=0B47.0B56 0B4B=0B47.0B3E,0B47.0B57 0B94=0B92.0BD7 0BCA=0BC6.0BBE,0BC7.0BBE,0BC6.0BD7",
  "0C48=0C46.0C56 0CC0=0CBF.0CD5 0CC7=0CC6.0CD5,0CC6.0CD6 0CCA=0CC6.0CC2,0CCA.0CD5",
  "0D4A=0D46.0D3E,0D47.0D3E,0D46.0D57 0DDA=0DD9.0DCA 0DDC=0DD9.0DCF,0DDC.0DCA,0DD9.0DDF",
  "1026=1025.102E 1B06=1B05.1B35 1B08=1B07.1B35 1B0A=1B09.1B35 1B0C=1B0B.1B35 1B0E=1B0D.1B35",
  "1B12=1B11.1B35 1B3B=1B3A.1B35 1B3D=1B3C.1B35 1B40=1B3E.1B35,1B3F.1B35 1B43=1B42.1B35",
  "1E00=0041.0325,0061.0325,0042.0307,0062.0307 1E04=0042.0323,0062.0323,0042.0331,0062.0331",
  "1E08=00C7.0301,00E7.0301,0044.0307,0064.0307 1E0C=0044.0323,0064.0323,0044.0331,0064.0331",
  "1E10=0044.0327,0064.0327,0044.032D,0064.032D 1E14=0112.0300,0113.0300,0112.0301,0113.0301",
  "1E18=0045.032D,0065.032D,0045.0330,0065.0330 1E1C=0228.0306,0229.0306,0046.0307,0066.0307",
  "1E20=0047.0304,0067.0304,0048.0307,0068.0307 1E24=0048.0323,0068.0323,0048.0308,0068.0308",
  "1E28=0048.0327,0068.0327,0048.032E,0068.032E 1E2C=0049.0330,0069.0330,00CF.0301,00EF.0301",
  "1E30=004B.0301,006B.0301,004B.0323,006B.0323 1E34=004B.0331,006B.0331,004C.0323,006C.0323",
  "1E38=1E36.0304,1E37.0304,004C.0331,006C.0331 1E3C=004C.032D,006C.032D,004D.0301,006D.0301",
  "1E40=004D.0307,006D.0307,004D.0323,006D.0323 1E44=004E.0307,006E.0307,004E.0323,006E.0323",
  "1E48=004E.0331,006E.0331,004E.032D,006E.032D 1E4C=00D5.0301,00F5.0301,00D5.0308,00F5.0308",
  "1E50=014C.0300,014D.0300,014C.0301,014D.0301 1E54=0050.0301,0070.0301,0050.0307,0070.0307",
  "1E58=0052.0307,0072.0307,0052.0323,0072.0323 1E5C=1E5A.0304,1E5B.0304,0052.0331,0072.0331",
  "1E60=0053.0307,0073.0307,0053.0323,0073.0323 1E64=015A.0307,015B.0307,0160.0307,0161.0307",
  "1E68=1E62.0307,1E63.0307,0054.0307,0074.0307 1E6C=0054.0323,0074.0323,0054.0331,0074.0331",
  "1E70=0054.032D,0074.032D,0055.0324,0075.0324 1E74=0055.0330,0075.0330,0055.032D,0075.032D",
  "1E78=0168.0301,0169.0301,016A.0308,016B.0308 1E7C=0056.0303,0076.0303,0056.0323,0076.0323",
  "1E80=0057.0300,0077.0300,0057.0301,0077.0301 1E84=0057.0308,0077.0308,0057.0307,0077.0307",
  "1E88=0057.0323,0077.0323,0058.0307,0078.0307 1E8C=0058.0308,0078.0308,0059.0307,0079.0307",
  "1E90=005A.0302,007A.0302,005A.0323,007A.0323 1E94=005A.0331,007A.0331,0068.0331,0074.0308",
  "1E98=0077.030A,0079.030A 1E9B=017F.0307 1EA0=0041.0323,0061.0323,0041.0309,0061.0309",
  "1EA4=00C2.0301,00E2.0301,00C2.0300,00E2.0300 1EA8=00C2.0309,00E2.0309,00C2.0303,00E2.0303",
  "1EAC=1EA0.0302,1EA1.0302,0102.0301,0103.0301 1EB0=0102.0300,0103.0300,0102.0309,0103.0309",
  "1EB4=0102.0303,0103.0303,1EA0.0306,1EA1.0306 1EB8=0045.0323,0065.0323,0045.0309,0065.0309",
  "1EBC=0045.0303,0065.0303,00CA.0301,00EA.0301 1EC0=00CA.0300,00EA.0300,00CA.0309,00EA.0309",
  "1EC4=00CA.0303,00EA.0303,1EB8.0302,1EB9.0302 1EC8=0049.0309,0069.0309,0049.0323,0069.0323",
  "1ECC=004F.0323,006F.0323,004F.0309,006F.0309 1ED0=00D4.0301,00F4.0301,00D4.0300,00F4.0300",
  "1ED4=00D4.0309,00F4.0309,00D4.0303,00F4.0303 1ED8=1ECC.0302,1ECD.0302,01A0.0301,01A1.0301",
  "1EDC=01A0.0300,01A1.0300,01A0.0309,01A1.0309 1EE0=01A0.0303,01A1.0303,01A0.0323,01A1.0323",
  "1EE4=0055.0323,0075.0323,0055.0309,0075.0309 1EE8=01AF.0301,01B0.0301,01AF.0300,01B0.0300",
  "1EEC=01AF.0309,01B0.0309,01AF.0303,01B0.0303 1EF0=01AF.0323,01B0.0323,0059.0300,0079.0300",
  "1EF4=0059.0323,0079.0323,0059.0309,0079.0309 1EF8=0059.0303,0079.0303",
  "1F00=03B1.0313,03B1.0314,1F00.0300,1F01.0300 1F04=1F00.0301,1F01.0301,1F00.0342,1F01.0342",
  "1F08=0391.0313,0391.0314,1F08.0300,1F09.0300 1F0C=1F08.0301,1F09.0301,1F08.0342,1F09.0342",
  "1F10=03B5.0313,03B5.0314,1F10.0300,1F11.0300 1F14=1F10.0301,1F11.0301",
  "1F18=0395.0313,0395.0314,1F18.0300,1F19.0300 1F1C=1F18.0301,1F19.0301",
  "1F20=03B7.0313,03B7.0314,1F20.0300,1F21.0300 1F24=1F20.0301,1F21.0301,1F20.0342,1F21.0342",
  "1F28=0397.0313,0397.0314,1F28.0300,1F29.0300 1F2C=1F28.0301,1F29.0301,1F28.0342,1F29.0342",
  "1F30=03B9.0313,03B9.0314,1F30.0300,1F31.0300 1F34=1F30.0301,1F31.0301,1F30.0342,1F31.0342",
  "1F38=0399.0313,0399.0314,1F38.0300,1F39.0300 1F3C=1F38.0301,1F39.0301,1F38.0342,1F39.0342",
  "1F40=03BF.0313,03BF.0314,1F40.0300,1F41.0300 1F44=1F40.0301,1F41.0301",
  "1F48=039F.0313,039F.0314,1F48.0300,1F49.0300 1F4C=1F48.0301,1F49.0301",
  "1F50=03C5.0313,03C5.0314,1F50.0300,1F51.0300 1F54=1F50.0301,1F51.0301,1F50.0342,1F51.0342",
  "1F59=03A5.0314 1F5B=1F59.0300 1F5D=1F59.0301 1F5F=1F59.0342,03C9.0313,03C9.0314,1F60.0300",
  "1F63=1F61.0300,1F60.0301,1F61.0301,1F60.0342 1F67=1F61.0342,03A9.0313,03A9.0314,1F68.0300",
  "1F6B=1F69.0300,1F68.0301,1F69.0301,1F68.0342 1F6F=1F69.0342,03B1.0300 1F72=03B5.0300",
  "1F74=03B7.0300 1F76=03B9.0300 1F78=03BF.0300 1F7A=03C5.0300 1F7C=03C9.0300",
  "1F80=1F00.0345,1F01.0345,1F02.0345,1F03.0345 1F84=1F04.0345,1F05.0345,1F06.0345,1F07.0345",
  "1F88=1F08.0345,1F09.0345,1F0A.0345,1F0B.0345 1F8C=1F0C.0345,1F0D.0345,1F0E.0345,1F0F.0345",
  "1F90=1F20.0345,1F21.0345,1F22.0345,1F23.0345 1F94=1F24.0345,1F25.0345,1F26.0345,1F27.0345",
  "1F98=1F28.0345,1F29.0345,1F2A.0345,1F2B.0345 1F9C=1F2C.0345,1F2D.0345,1F2E.0345,1F2F.0345",
  "1FA0=1F60.0345,1F61.0345,1F62.0345,1F63.0345 1FA4=1F64.0345,1F65.0345,1F66.0345,1F67.0345",
  "1FA8=1F68.0345,1F69.0345,1F6A.0345,1F6B.0345 1FAC=1F6C.0345,1F6D.0345,1F6E.0345,1F6F.0345",
  "1FB0=03B1.0306,03B1.0304,1F70.0345,03B1.0345 1FB4=03AC.0345",
  "1FB6=03B1.0342,1FB6.0345,0391.0306,0391.0304 1FBA=0391.0300 1FBC=0391.0345",
  "1FC1=00A8.0342,1F74.0345,03B7.0345,03AE.0345 1FC6=03B7.0342,1FC6.0345,0395.0300",
  "1FCA=0397.0300 1FCC=0397.0345,1FBF.0300,1FBF.0301,1FBF.0342",
  "1FD0=03B9.0306,03B9.0304,03CA.0300 1FD6=03B9.0342,03CA.0342,0399.0306,0399.0304",
  "1FDA=0399.0300 1FDD=1FFE.0300,1FFE.0301,1FFE.0342,03C5.0306 1FE1=03C5.0304,03CB.0300",
  "1FE4=03C1.0313,03C1.0314,03C5.0342,03CB.0342 1FE8=03A5.0306,03A5.0304,03A5.0300",
  "1FEC=03A1.0314,00A8.0300 1FF2=1F7C.0345,03C9.0345,03CE.0345",
  "1FF6=03C9.0342,1FF6.0345,039F.0300 1FFA=03A9.0300 1FFC=03A9.0345 219A=2190.0338,2192.0338",
  "21AE=2194.0338 21CD=21D0.0338,21D4.0338,21D2.0338 2204=2203.0338 2209=2208.0338",
  "220C=220B.0338 2224=2223.0338 2226=2225.0338 2241=223C.0338 2244=2243.0338 2247=2245.0338",
  "2249=2248.0338 2260=003D.0338 2262=2261.0338 226D=224D.0338,003C.0338,003E.0338,2264.0338",
  "2271=2265.0338 2274=2272.0338,2273.0338 2278=2276.0338,2277.0338 2280=227A.0338,227B.0338",
  "2284=2282.0338,2283.0338 2288=2286.0338,2287.0338",
  "22AC=22A2.0338,22A8.0338,22A9.0338,22AB.0338 22E0=227C.0338,227D.0338,2291.0338,2292.0338",
  "22EA=22B2.0338,22B3.0338,22B4.0338,22B5.0338 304C=304B.3099 304E=304D.3099 3050=304F.3099",
  "3052=3051.3099 3054=3053.3099 3056=3055.3099 3058=3057.3099 305A=3059.3099 305C=305B.3099",
  "305E=305D.3099 3060=305F.3099 3062=3061.3099 3065=3064.3099 3067=3066.3099 3069=3068.3099",
  "3070=306F.3099,306F.309A 3073=3072.3099,3072.309A 3076=3075.3099,3075.309A",
  "3079=3078.3099,3078.309A 307C=307B.3099,307B.309A 3094=3046.3099 309E=309D.3099",
  "30AC=30AB.3099 30AE=30AD.3099 30B0=30AF.3099 30B2=30B1.3099 30B4=30B3.3099 30B6=30B5.3099",
  "30B8=30B7.3099 30BA=30B9.3099 30BC=30BB.3099 30BE=30BD.3099 30C0=30BF.3099 30C2=30C1.3099",
  "30C5=30C4.3099 30C7=30C6.3099 30C9=30C8.3099 30D0=30CF.3099,30CF.309A",
  "30D3=30D2.3099,30D2.309A 30D6=30D5.3099,30D5.309A 30D9=30D8.3099,30D8.309A",
  "30DC=30DB.3099,30DB.309A 30F4=30A6.3099 30F7=30EF.3099,30F0.3099,30F1.3099,30F2.3099",
  "30FE=30FD.3099 105C9=105D2.0307 105E4=105DA.0307 1109A=11099.110BA 1109C=1109B.110BA",
  "110AB=110A5.110BA 1112E=11131.11127,11132.11127 1134B=11347.1133E,11347.11357",
  "11383=11382.113C9 11385=11384.113BB 1138E=1138B.113C2 11391=11390.113C9 113C5=113C2.113C2",
  "113C7=113C2.113B8,113C2.113C9 114BB=114B9.114BA,114B9.114B0 114BE=114B9.114BD",
  "115BA=115B8.115AF,115B9.115AF 11938=11935.11930 16121=1611E.1611E,1611E.16129,1611E.1611F",
  "16124=16129.1611F,1611E.16120,16121.1611F 16127=16122.1611F,16121.16120",
  "16D68=16D67.16D67,16D63.16D67,16D69.16D67"]

/-- What a character is made of, after at most `n` steps. -/
def partsWithin : Nat → Char → List Char
  | 0, c => [c]
  | n + 1, c =>
    match Syllable.index? c with
    | some i => Syllable.letters i
    | none =>
      match pairs.find? c with
      | some parts => parts.flatMap (partsWithin n)
      | none => [c]

/-- The number of steps within which every character of the table is taken apart. -/
def depth : Nat := 3

/-- What a character is made of. -/
def parts (c : Char) : List Char := partsWithin depth c

/-- The one character that two characters make up, if there is one. -/
def joined? (a b : Char) : Option Char :=
  match Syllable.ofPair? a b with
  | some c => some c
  | none => pairs.key? [a, b]

end StreamRelay.Text
