import CmsTypings.Unicode.CodeSet

/-!
The scripts of the Unicode character database: for each its names, its characters, and the
characters that its texts use beside them. The last list is empty where it adds nothing.
-/

namespace CmsTypings.Unicode.Script

/-- A script: `own` holds the characters assigned to it, `used` those that list it among their
script extensions. -/
structure Named where
  names : List String
  own : CodeSet
  used : CodeSet

def entry (names own used : List String) : Named :=
  let set := CodeSet.ofRuns own
  ⟨names, set, if used.isEmpty then set else .ofRuns used⟩

def all : List Named :=
  [entry ["Adlam", "Adlm"]
    ["1E900 4C 4 A 4 2"]
    ["61F 1 20 1 1A0E 1 DF1 1 1BABE 4C 4 A 4 2"],
   entry ["Ahom"]
    ["11700 1B 2 F 4 17"]
    [],
   entry ["Anatolian_Hieroglyphs", "Hluw"]
    ["14400 247"]
    [],
   entry ["Arabic", "Arab"]
    ["600 5 1 6 1 E 1 3 1 20 1 A B 1A 1 6C 1 22 50 30 F0 22 5 4B 1 1D F250 1EE 2 90 20 10 70 5 1",
     "87 F63 1F 43 6 8 9 21 6 DF00 4 1 1B 1 2 1 1 2 1 1 A 1 4 1 1 1 1 6 1 4 1 1 1 1 1 1 3 1 2 1 1",
     "2 1 1 1 1 1 1 1 1 1 1 2 1 1 2 4 1 7 1 4 1 4 1 1 1 A 1 11 5 3 1 5 1 11 34 2"]
    ["600 5 1 D7 1 22 50 30 F0 22 5 4B 1 1D 174F 1 DF1 1 CD0E 280 20 10 70 5 1 87 3E3 1C B64 1F 43",
     "6 8 9 21 6 DF00 4 1 1B 1 2 1 1 2 1 1 A 1 4 1 1 1 1 6 1 4 1 1 1 1 1 1 3 1 2 1 1 2 1 1 1 1 1 1",
     "1 1 1 1 2 1 1 2 4 1 7 1 4 1 4 1 1 1 A 1 11 5 3 1 5 1 11 34 2"],
   entry ["Armenian", "Armn"]
    ["531 26 2 32 2 3 F583 5"]
    ["308 1 228 26 2 32 2 3 F583 5"],
   entry ["Avestan", "Avst"]
    ["10B00 36 3 7"]
    ["B7 1 2D78 2 DCCE 36 3 7"],
   entry ["Balinese", "Bali"]
    ["1B00 4D 1 32"]
    [],
   entry ["Bamum", "Bamu"]
    ["A6A0 58 C108 239"]
    [],
   entry ["Bassa_Vah", "Bass"]
    ["16AD0 1E 2 6"]
    [],
   entry ["Batak", "Batk"]
    ["1BC0 34 8 4"]
    [],
   entry ["Bengali", "Beng"]
    ["980 4 1 8 2 2 2 16 1 7 1 1 3 4 2 9 2 2 2 4 8 1 4 2 1 5 2 19"]
    ["2BC 1 694 2 11 2 1A 4 1 8 2 2 2 16 1 7 1 1 3 4 2 9 2 2 2 4 8 1 4 2 1 5 2 19 12D1 1 1 1 2 2 1",
     "1 8 1 8 1 2 1 4 1 2 3 8BF9 1"],
   entry ["Bhaiksuki", "Bhks"]
    ["11C00 9 1 2D 1 E A 1D"]
    [],
   entry ["Bopomofo", "Bopo"]
    ["2EA 2 2E19 2B 70 20"]
    ["2C7 1 1 3 D 1 10 2 2D15 3 4 A 1 D A 4 2 1 6 1 C3 1 9 2B 70 20 CC85 2 11A 5"],
   entry ["Brahmi", "Brah"]
    ["11000 4E 4 24 9 1"]
    [],
   entry ["Braille", "Brai"]
    ["2800 100"]
    [],
   entry ["Buginese", "Bugi"]
    ["1A00 1C 2 2"]
    ["1A00 1C 2 2 8FAF 1"],
   entry ["Buhid", "Buhd"]
    ["1740 14"]
    ["1735 2 9 14"],
   entry ["Canadian_Aboriginal", "Cans"]
    ["1400 280 230 46 101BA 10"]
    [],
   entry ["Carian", "Cari"]
    ["102A0 31"]
    ["B7 1 1FA2 1 2 1 DD3 1 D46E 31"],
   entry ["Caucasian_Albanian", "Aghb"]
    ["10530 34 B 1"]
    ["304 1 2C 1 2C 1 101D1 34 B 1"],
   entry ["Chakma", "Cakm"]
    ["11100 35 1 12"]
    ["9E6 A 650 A 100B6 35 1 12"],
   entry ["Cham"]
    ["AA00 37 9 E 2 A 2 4"]
    [],
   entry ["Cherokee", "Cher"]
    ["13A0 56 2 6 9772 50"]
    ["300 3 1 1 6 2 16 2 B 2 106E 56 2 6 9772 50"],
   entry ["Chorasmian", "Chrs"]
    ["10FB0 1C"]
    [],
   entry ["Common", "Zyyy"]
    ["0 41 1A 6 1A 2F 1 F 1 5 17 1 1F 1 1C1 27 5 5 2 14 74 1 9 1 6 1 1 1 27D 1 6 1 E 1 3 1 20 1 9C",
     "1 204 1 81 2 4D9 1 195 4 122 1 5EF 3 47 2 CB 2 1 1 4CD 1 D 1 7 4 1 6 1 3 2 1 305 C 2 57 1 B",
     "3 B 1 F 11 22 3E 26 1 3 2 6 1 1B 1 11 29 3 4 29A 16 B 15 3A0 100 274 2 8A 200 5E 192 15 1 1",
     "1 19 F 8 4 4 5B 2 3 1 5A 2 93 10 20 26 9 1 30 40 1F 51 2F 1 58 A8 19C0 40 5900 22 66 3 A5 A",
     "F4 1 A0 1 18B 1 E 2 51D2 2 D0 A 16 23 1 13 1 4 93 1 1 20 1A 6 1A B A 1 2D 2 40 7 1 7 A 5 102",
     "3 4 2D 3 9 50 D 33 2D E4 1B B9A4 4 F5C FD 3 1B4 6 17 F 11 5F 74 3C F6 A 27 2 3E 3 11 8 2 7",
     "1E 4 3D D5 14 C 14 C 57 9 19 87 55 1 47 1 2 2 1 2 2 2 4 1 C 1 1 1 7 1 41 1 4 2 8 1 7 1 1C 1",
     "4 1 5 1 1 3 7 1 154 2 124 2 32 1471 44 4C 3D 2C2 2C 4 64 C F 2 F 1 F 1 25 A AE 38 1A 1 2 D",
     "2C 4 9 7 2 E 6 9A 3D9 3 11 3 D 3 DA 6 C 4 1 F C 4 38 8 A 6 28 8 1E 2 C 4 2 E 9 27 158 8 E 2",
     "D 3 B 3 39 1 1 4 10 2 C 4 A 7 93 1 67 C0406 1 1E 60"]
    ["0 41 1A 6 1A 2F 1 C 1 2 1 5 17 1 1F 1 1C1 3 1 A 1 1 3 1 1 9 1 1 1 6 5 5 2 14 7E 1 6 1 1 1",
     "27D 1 D7 1 204 1 55C 1 195 4 1027 C 2 21 1 1F 1 A 1 2 1 7 1 B 3 B 1 F 11 22 3E 26 1 3 2 6 1",
     "1B 1 11 29 3 4 29A 16 B 15 3A0 100 274 2 8A 200 17 1 18 2 A 1 4 1 1 1 1A 1A2 1 3 1 D 1 D 1",
     "15 1 211 18 1F 1 31 F C 4 A1 A 5 60 1F 1 19C0 40 5908 1A 66 3 3D0 1 E 2 52A4 A 16 15 2 C 1",
     "13 1 4 93 1 1 20 1A 6 1A 6 7F 7 1 7 A 5 192 D 33 2D CA03 FD 3 1B4 6 17 F 11 5F 74 3C F6 A 27",
     "2 3E 3 11 8 2 7 1E 4 3D D5 14 C 14 C 57 1B 7 87 55 1 47 1 2 2 1 2 2 2 4 1 C 1 1 1 7 1 41 1 4",
     "2 8 1 7 1 1C 1 4 1 5 1 1 3 7 1 154 2 124 2 32 1471 44 4C 3D 2C2 2C 4 64 C F 2 F 1 F 1 25 A",
     "AE 38 1A 1 2 D 2C 4 9 17 6 9A 3D9 3 11 3 D 3 DA 6 C 4 1 F C 4 38 8 A 6 28 8 1E 2 C 4 2 E 9",
     "27 158 8 E 2 D 3 B 3 39 1 1 4 10 2 C 4 A 7 93 1 67 C0406 1 1E 60"],
   entry ["Coptic", "Copt", "Qaac"]
    ["3E2 E 2890 74 5 7"]
    ["B7 1 248 1 3 2 1 1 6C 2 6C E 2890 74 5 7 117 1 D4C8 1C"],
   entry ["Cuneiform", "Xsux"]
    ["12000 39A 66 6F 1 5 B C4"]
    [],
   entry ["Cypriot", "Cprt"]
    ["10800 6 2 1 1 2C 1 2 3 1 2 1"]
    ["10100 3 4 2D 3 9 6C0 6 2 1 1 2C 1 2 3 1 2 1"],
   entry ["Cypro_Minoan", "Cpmn"]
    ["12F90 63"]
    ["10100 2 2E8E 63"],
   entry ["Cyrillic", "Cyrl"]
    ["400 85 2 A9 1750 B A0 1 4C 1 1067 20 7840 60 578E 2 E200 3E 21 1"]
    ["2BC 1 43 3 1 1 1 1 1 1 2 1 5 1 EE 130 1750 B A0 1 4C 1 7F 1 FE7 20 43 1 77FC 60 578E 2 E200",
     "3E 21 1"],
   entry ["Deseret", "Dsrt"]
    ["10400 50"]
    [],
   entry ["Devanagari", "Deva"]
    ["900 51 4 F 2 1A 9F60 20 7200 A"]
    ["2BC 1 643 53 2 2B 1350 27 1 2 3F6 1 873F A A6 20 7200 A"],
   entry ["Dives_Akuru", "Diak"]
    ["11900 7 2 1 2 8 1 2 1 1E 1 2 2 C 9 A"]
    [],
   entry ["Dogra", "Dogr"]
    ["11800 3C"]
    ["964 C 9EC0 A 6FC6 3C"],
   entry ["Duployan", "Dupl"]
    ["1BC00 6B 5 D 3 9 7 A 2 4"]
    ["B7 1 24F 2 1 1 18 2 2B17 1 18DC3 6B 5 D 3 9 7 A 2 8"],
   entry ["Egyptian_Hieroglyphs", "Egyp"]
    ["13000 456 A F9B"]
    [],
   entry ["Elbasan", "Elba"]
    ["10500 28"]
    ["B7 1 24D 1 101FA 28"],
   entry ["Elymaic", "Elym"]
    ["10FE0 17"]
    [],
   entry ["Ethiopic", "Ethi"]
    ["1200 49 1 4 2 7 1 1 1 4 2 29 1 4 2 21 1 4 2 7 1 1 1 4 2 F 1 39 1 4 2 43 2 20 3 1A 19E6 17 9",
     "7 1 7 1 7 1 7 1 7 1 7 1 7 1 7 7D22 6 2 6 2 6 9 7 1 7 13CB1 7 1 4 1 2 1 F"]
    ["30E 1 EF1 49 1 4 2 7 1 1 1 4 2 29 1 4 2 21 1 4 2 7 1 1 1 4 2 F 1 39 1 4 2 43 2 20 3 1A 19E6",
     "17 9 7 1 7 1 7 1 7 1 7 1 7 1 7 1 7 7D22 6 2 6 2 6 9 7 1 7 13CB1 7 1 4 1 2 1 F"],
   entry ["Garay", "Gara"]
    ["10D40 26 3 1D 8 2"]
    ["60C 1 E 1 3 1 10720 26 3 1D 8 2"],
   entry ["Georgian", "Geor"]
    ["10A0 26 1 1 5 1 2 2B 1 4 B90 2B 2 3 1040 26 1 1 5 1"]
    ["B7 1 4D1 1 B16 26 1 1 5 1 2 30 B90 2B 2 3 39A 1 CA5 26 1 1 5 1 103 1"],
   entry ["Glagolitic", "Glag"]
    ["2C00 60 1B3A0 7 1 11 2 7 1 2 1 5"]
    ["B7 1 24B 1 1 1 17E 1 2 1 101 1 B71 1 F5E 1 BA5 60 1E3 1 782B 1 13990 7 1 11 2 7 1 2 1 5"],
   entry ["Gothic", "Goth"]
    ["10330 1B"]
    ["B7 1 24C 2 2 1 28 1 FFFE 1B"],
   entry ["Grantha", "Gran"]
    ["11300 4 1 8 2 2 2 16 1 7 1 2 1 5 2 9 2 2 2 3 2 1 6 1 5 7 2 7 3 5"]
    ["951 2 11 2 280 E 10DC 1 1 2 1E 3 3 2 3F6 1 F20F 4 1 8 2 2 2 16 1 7 1 2 1 5 1 A 2 2 2 3 2 1 6",
     "1 5 7 2 7 3 5 C5B 2 1 1"],
   entry ["Greek", "Grek"]
    ["370 4 1 3 2 4 1 1 4 1 1 1 1 3 1 1 1 14 1 3F E 10 1926 5 32 5 4 5 54 1 140 16 2 6 2 26 2 6 2",
     "8 1 1 1 1 1 1 1 1F 2 35 1 F 1 E 2 6 1 13 2 3 1 9 127 1 8A3E 1 55DA 4F 11 1 D05F 46"]
    ["B7 1 248 2 2 1 1 1 1 1 A 1 2E 1 2 1 2A 8 2 4 1 1 4 1 1 1 1 3 1 1 1 14 1 3F E 10 1926 5 32 5",
     "4 5 54 3 13E 16 2 6 2 26 2 6 2 8 1 1 1 1 1 1 1 1F 2 35 1 F 1 E 2 6 1 13 2 3 1 9 5E 1 C8 1",
     "8A3E 1 55DA 4F 11 1 D05F 46"],
   entry ["Gujarati", "Gujr"]
    ["A81 3 1 9 1 3 1 16 1 7 1 2 1 5 2 A 1 3 1 3 2 1 F 4 2 C 7 7"]
    ["951 2 11 2 11B 3 1 9 1 3 1 16 1 7 1 2 1 5 2 A 1 3 1 3 2 1 F 4 2 C 7 7 9D30 A"],
   entry ["Gunjala_Gondi", "Gong"]
    ["11D60 6 1 2 1 25 1 2 1 6 7 A"]
    ["B7 1 8AC 2 113FA 6 1 2 1 25 1 2 1 6 7 A"],
   entry ["Gurmukhi", "Guru"]
    ["A01 3 1 6 4 2 2 16 1 7 1 2 1 2 1 2 2 1 1 5 4 2 2 3 3 1 7 4 1 1 7 11"]
    ["951 2 11 2 9B 3 1 6 4 2 2 16 1 7 1 2 1 2 1 2 2 1 1 5 4 2 2 3 3 1 7 4 1 1 7 11 9DB9 A"],
   entry ["Gurung_Khema", "Gukh"]
    ["16100 3A"]
    ["965 1 1579A 3A"],
   entry ["Han", "Hani"]
    ["2E80 1A 1 59 C D6 2F 1 1 1 19 9 E 4 3C4 19C0 40 5200 5900 16E 2 6A 7508 2 C 7 9009 A6E0 20",
     "111E 2 168E 2 1D31 F 26E 9A2 21E 5E2 134B 5 212A"]
    ["B7 1 2DC8 1A 1 59 C D6 1A 10 1 3 1 D 1 D 1 D 2 1 6 9 BB 1 94 10 20 26 9 1 30 28 38 31 F C 33",
     "1 58 19 A 5 60 1F 1 19C0 40 5200 700 8 51F8 16E 2 6A 36B 2 11A 5 707C 2 C 7 6369 12 1EDE 2",
     "DAE A6E0 20 111E 2 168E 2 1D31 F 26E 9A2 21E 5E2 134B 5 212A"],
   entry ["Hangul", "Hang"]
    ["1100 100 1E2E 2 101 5E 71 1F 41 1F 76E1 1D 283 2BA4 C 17 4 31 27A4 1F 3 6 2 6 2 6 2 3"]
    ["1100 100 1E01 3 4 A 1 D E 3 6 1 C3 1 35 5E 71 1F 41 1F 76E1 1D 283 2BA4 C 17 4 31 2649 2 11A",
     "5 3A 1F 3 6 2 6 2 6 2 3"],
   entry ["Hanifi_Rohingya", "Rohg"]
    ["10D00 28 8 A"]
    ["60C 1 E 1 3 1 20 1 93 1 1062B 28 8 A"],
   entry ["Hanunoo", "Hano"]
    ["1720 15"]
    ["1720 17"],
   entry ["Hatran", "Hatr"]
    ["108E0 13 1 2 5 5"]
    [],
   entry ["Hebrew", "Hebr"]
    ["591 37 8 1B 4 6 F528 1A 1 5 1 1 1 2 1 2 1 A"]
    ["307 2 288 37 8 1B 4 6 F528 1A 1 5 1 1 1 2 1 2 1 A"],
   entry ["Hiragana", "Hira"]
    ["3041 56 6 3 17F61 11F 12 1 1D 3 40AD 1"]
    ["3001 3 4 A 1 D 10 6 1 1 4 2 3 56 2 8 5A 2 CD48 2 11A 5 A 1 2D 2 B061 11F 12 1 1D 3 40AD 1"],
   entry ["Imperial_Aramaic", "Armi"]
    ["10840 16 1 9"]
    [],
   entry ["Inherited", "Zinh", "Qaai"]
    ["300 70 115 2 1C4 B 1A 1 2E0 4 115B 2E 2 C 1E4 3 1 D 1 7 4 1 6 1 3 2 C6 40 20C 2 C2 21 F39 4",
     "6B 2 CD65 10 10 E 3CF 1 E2 1 105A 1 BBC4 2E 2 17 220 3 11 8 2 7 1E 4 C2F52 F0"]
    ["30F 1 2 1 1 F 3 7 2 1 2 10 1 2 1 12 1 5 1 4 5F0 2 115B 2E 2 C 2D6 36 1 1 1 5 20C 2 C2 20",
     "DD10 10 10 E 3CF 1 CD02 2E 2 17 220 3 11 8 2 7 1E 4 C2F52 F0"],
   entry ["Inscriptional_Pahlavi", "Phli"]
    ["10B60 13 5 8"]
    [],
   entry ["Inscriptional_Parthian", "Prti"]
    ["10B40 16 2 8"]
    [],
   entry ["Javanese", "Java"]
    ["A980 4E 2 A 4 2"]
    ["A980 4E 1 B 4 2"],
   entry ["Kaithi", "Kthi"]
    ["11080 43 A 1"]
    ["966 A 24C1 1 79FE A 6846 43 A 1"],
   entry ["Kannada", "Knda"]
    ["C80 D 1 3 1 17 1 A 1 5 2 9 1 3 1 4 7 2 5 3 1 4 2 A 1 3"]
    ["951 2 11 2 31A D 1 3 1 17 1 A 1 5 2 9 1 3 1 4 7 2 5 3 1 4 2 A 1 3 FDC 1 1 2 6 1 17 1 1 1",
     "8B3B 6"],
   entry ["Katakana", "Kana"]
    ["30A1 5A 2 3 F0 10 D0 2F 1 58 CC0E A 1 2D B052 4 1 7 1 2 1 1 11F 3 32 1 E 4"]
    ["305 1 1D 1 2CDD 3 4 A 1 D 10 6 1 1 4 2 5B 4 3 60 F0 10 D0 2F 1 58 CAED 2 11A 3F B050 4 1 7 1",
     "2 1 1 11F 3 32 1 E 4"],
   entry ["Kawi"]
    ["11F00 11 1 29 3 1D"]
    [],
   entry ["Kayah_Li", "Kali"]
    ["A900 2E 1 1"]
    ["A900 30"],
   entry ["Kharoshthi", "Khar"]
    ["10A00 4 1 2 5 8 1 3 1 1D 2 3 4 A 7 9"]
    [],
   entry ["Khitan_Small_Script", "Kits"]
    ["16FE4 1 1B1B 1D6 29 1"]
    [],
   entry ["Khmer", "Khmr"]
    ["1780 5E 2 A 6 A 1E6 20"]
    [],
   entry ["Khojki", "Khoj"]
    ["11200 12 1 2F"]
    ["AE6 A 9D40 A 69C6 12 1 2F"],
   entry ["Khudawadi", "Sind"]
    ["112B0 3B 5 A"]
    ["964 2 9ECA A 6A76 3B 5 A"],
   entry ["Kirat_Rai", "Krai"]
    ["16D40 3A"]
    [],
   entry ["Lao", "Laoo"]
    ["E81 2 1 1 1 5 1 18 1 1 1 17 2 5 1 1 1 7 1 A 2 4"]
    [],
   entry ["Latin", "Latn"]
    ["41 1A 6 1A 2F 1 F 1 5 17 1 1F 1 1C1 27 5 1A1B 26 6 31 5 4 5 D 1 46 41 100 171 1 D 1 10 D 8D",
     "2 6 1 1B 1 11 29 AD7 20 7AA2 66 3 52 14 F 330 2B 1 9 1 4 4F96 7 41A 1A 6 1A 825 6 1 2A 1 9",
     "D745 1F 6 6"]
    ["41 1A 6 1A 2F 1 C 1 2 1 5 17 1 1F 1 1C1 3 1 A 1 1 3 1 1 9 1 1 1 6 5 1B F 1 2 1 1 F 3 7 2 1 2",
     "26 1 5 1 4 D 115 2 4CA 2 7A8 1 C04 26 6 31 5 4 5 D 1 46 39 1 7 100 12F 1 41 1 D 1 10 D 53 1",
     "39 2 6 1 1B 1 11 29 AD7 20 197 1 78E8 8 1A 66 3 52 14 F 12E 1 201 2B 1 9 1 4 4F96 7 41A 1A 6",
     "1A 825 6 1 2A 1 9 D745 1F 6 6"],
   entry ["Lepcha", "Lepc"]
    ["1C00 38 3 F 3 3"]
    [],
   entry ["Limbu", "Limb"]
    ["1900 1F 1 C 4 C 4 1 3 C"]
    ["965 1 F9A 1F 1 C 4 C 4 1 3 C"],
   entry ["Linear_A", "Lina"]
    ["10600 137 9 16 A 8"]
    ["10107 2D 4CC 137 9 16 A 8"],
   entry ["Linear_B", "Linb"]
    ["10000 C 1 1A 1 13 1 2 1 F 2 E 22 7B"]
    ["10000 C 1 1A 1 13 1 2 1 F 2 E 22 7B 5 3 4 2D 3 9"],
   entry ["Lisu"]
    ["A4D0 30 7AB0 1"]
    ["2BC 1 10 1 2D3C 2 74C4 30 7AB0 1"],
   entry ["Lycian", "Lyci"]
    ["10280 1D"]
    ["205A 1 E225 1D"],
   entry ["Lydian", "Lydi"]
    ["10920 1A 5 1"]
    ["B7 1 2D79 1 DAEE 1A 5 1"],
   entry ["Mahajani", "Mahj"]
    ["11150 27"]
    ["B7 1 8AC C 9EC0 A 6916 27"],
   entry ["Makasar", "Maka"]
    ["11EE0 19"]
    [],
   entry ["Malayalam", "Mlym"]
    ["D00 D 1 3 1 33 1 3 1 6 4 10 2 1A"]
    ["951 2 11 2 39A D 1 3 1 33 1 3 1 6 4 10 2 1A F5A 1 17 1 8B3D 3"],
   entry ["Mandaic", "Mand"]
    ["840 1C 2 1"]
    ["640 1 1FF 1C 2 1"],
   entry ["Manichaean", "Mani"]
    ["10AC0 27 4 C"]
    ["640 1 1047F 27 4 C"],
   entry ["Marchen", "Marc"]
    ["11C70 20 2 16 1 E"]
    [],
   entry ["Masaram_Gondi", "Gonm"]
    ["11D00 7 1 2 1 2C 3 1 1 2 1 9 8 A"]
    ["964 2 1139A 7 1 2 1 2C 3 1 1 2 1 9 8 A"],
   entry ["Medefaidrin", "Medf"]
    ["16E40 5B"]
    [],
   entry ["Meetei_Mayek", "Mtei"]
    ["AAE0 17 C9 2E 2 A"]
    [],
   entry ["Mende_Kikakui", "Mend"]
    ["1E800 C5 2 10"]
    [],
   entry ["Meroitic_Cursive", "Merc"]
    ["109A0 18 4 14 2 2E"]
    [],
   entry ["Meroitic_Hieroglyphs", "Mero"]
    ["10980 20"]
    ["205D 1 E922 20"],
   entry ["Miao", "Plrd"]
    ["16F00 4B 4 39 7 11"]
    [],
   entry ["Modi"]
    ["11600 45 B A"]
    ["A830 A 6DC6 45 B A"],
   entry ["Mongolian", "Mong"]
    ["1800 2 2 1 1 14 6 59 7 2B FDB5 D"]
    ["1800 1A 6 59 7 2B 784 1 FD1 2 5 4 E654 D"],
   entry ["Mro", "Mroo"]
    ["16A40 1F 1 A 4 2"]
    [],
   entry ["Multani", "Mult"]
    ["11280 7 1 1 1 4 1 F 1 B"]
    ["A66 A 10810 7 1 1 1 4 1 F 1 B"],
   entry ["Myanmar", "Mymr"]
    ["1000 A0 9940 1F 61 20 6C50 14"]
    ["1000 A0 988E 1 B1 1F 61 20 6C50 14"],
   entry ["Nabataean", "Nbat"]
    ["10880 1F 8 9"]
    [],
   entry ["Nag_Mundari", "Nagm"]
    ["1E4D0 2A"]
    [],
   entry ["Nandinagari", "Nand"]
    ["119A0 8 2 2E 2 B"]
    ["951 1 12 2 380 A FF9 1 8 1 7 1 8B35 6 716A 8 2 2E 2 B"],
   entry ["New_Tai_Lue", "Talu"]
    ["1980 2C 4 1A 6 B 3 2"]
    [],
   entry ["Newa"]
    ["11400 5C 1 5"]
    ["951 2 1382 1 1 2 9 1 6 1 1 1 1 1 F712 5C 1 5"],
   entry ["Nko", "Nkoo"]
    ["7C0 3B 2 3"]
    ["60C 1 E 1 3 1 1A0 3B 2 3 F53E 2"],
   entry ["Nushu", "Nshu"]
    ["16FE1 1 418E 18C"]
    [],
   entry ["Nyiakeng_Puachue_Hmong", "Hmnp"]
    ["1E100 2D 3 E 2 A 4 2"]
    [],
   entry ["Ogham", "Ogam"]
    ["1680 1D"]
    [],
   entry ["Ol_Chiki", "Olck"]
    ["1C50 30"]
    [],
   entry ["Ol_Onal", "Onao"]
    ["1E5D0 2B 4 1"]
    ["964 2 1DC6A 2B 4 1"],
   entry ["Old_Hungarian", "Hung"]
    ["10C80 33 D 33 7 6"]
    ["205A 1 2 1 DD3 1 F 1 DE3E 33 D 33 7 6"],
   entry ["Old_Italic", "Ital"]
    ["10300 24 9 3"]
    [],
   entry ["Old_North_Arabian", "Narb"]
    ["10A80 20"]
    [],
   entry ["Old_Permic", "Perm"]
    ["10350 2B"]
    ["B7 1 248 1 5 3 A 1 16F 1 FECC 2B"],
   entry ["Old_Persian", "Xpeo"]
    ["103A0 24 4 E"]
    [],
   entry ["Old_Sogdian", "Sogo"]
    ["10F00 28"]
    [],
   entry ["Old_South_Arabian", "Sarb"]
    ["10A60 20"]
    [],
   entry ["Old_Turkic", "Orkh"]
    ["10C00 49"]
    ["205A 1 DD5 1 DDCF 49"],
   entry ["Old_Uyghur", "Ougr"]
    ["10F70 1A"]
    ["640 1 104B1 1 47D 1A"],
   entry ["Oriya", "Orya"]
    ["B01 3 1 8 2 2 2 16 1 7 1 2 1 5 2 9 2 2 2 3 7 3 4 2 1 5 2 12"]
    ["951 2 11 2 19B 3 1 8 2 2 2 16 1 7 1 2 1 5 2 9 2 2 2 3 7 3 4 2 1 5 2 12 1162 1 17 1"],
   entry ["Osage", "Osge"]
    ["104B0 24 4 24"]
    ["301 1 2 1 6 1 4C 1 10157 24 4 24"],
   entry ["Osmanya", "Osma"]
    ["10480 1E 2 A"]
    [],
   entry ["Pahawh_Hmong", "Hmng"]
    ["16B00 46 A A 1 7 1 15 5 13"]
    [],
   entry ["Palmyrene", "Palm"]
    ["10860 20"]
    [],
   entry ["Pau_Cin_Hau", "Pauc"]
    ["11AC0 39"]
    [],
   entry ["Phags_Pa", "Phag"]
    ["A840 38"]
    ["1802 2 1 1 829 1 FD2 1 783D 38"],
   entry ["Phoenician", "Phnx"]
    ["10900 1C 3 1"]
    [],
   entry ["Psalter_Pahlavi", "Phlp"]
    ["10B80 12 7 4 C 7"]
    ["640 1 1053F 12 7 4 C 7"],
   entry ["Rejang", "Rjng"]
    ["A930 24 B 1"]
    [],
   entry ["Runic", "Runr"]
    ["16A0 4B 3 B"]
    ["16A0 59"],
   entry ["Samaritan", "Samr"]
    ["800 2E 2 F"]
    ["800 2E 2 F 25F2 1"],
   entry ["Saurashtra", "Saur"]
    ["A880 46 8 C"]
    [],
   entry ["Sharada", "Shrd"]
    ["11180 60 980 8"]
    ["951 1 1385 1 1 1 2 2 2 1 9 1 2 1 8B42 6 2 1 6947 60 980 8"],
   entry ["Shavian", "Shaw"]
    ["10450 30"]
    ["B7 1 10398 30"],
   entry ["Siddham", "Sidd"]
    ["11580 36 2 26"]
    [],
   entry ["SignWriting", "Sgnw"]
    ["1D800 28C F 5 1 F"]
    [],
   entry ["Sinhala", "Sinh"]
    ["D81 3 1 12 3 18 1 9 1 1 2 7 3 1 4 6 1 1 1 8 6 A 2 3 103EC 14"]
    ["964 2 41B 3 1 12 3 18 1 9 1 1 2 7 3 1 4 6 1 1 1 8 6 A 2 3 EFD 1 F4EE 14"],
   entry ["Sogdian", "Sogd"]
    ["10F30 2A"]
    ["640 1 108EF 2A"],
   entry ["Sora_Sompeng", "Sora"]
    ["110D0 19 7 A"]
    [],
   entry ["Soyombo", "Soyo"]
    ["11A50 53"]
    [],
   entry ["Sundanese", "Sund"]
    ["1B80 40 100 8"]
    [],
   entry ["Sunuwar", "Sunu"]
    ["11BC0 22 E A"]
    ["300 2 1 1 9 1 2 1 1C 1 3 1 1188E 22 E A"],
   entry ["Syloti_Nagri", "Sylo"]
    ["A800 2D"]
    ["964 2 80 A 9E10 2D"],
   entry ["Syriac", "Syrc"]
    ["700 E 1 3C 2 3 110 B"]
    ["303 2 2 2 1 1 18 3 7 2 1 2 2DA 1 E 2 2 1 20 1 A B 1A 1 8F E 1 3C 2 3 110 B 158D 1 1 1"],
   entry ["Tagalog", "Tglg"]
    ["1700 16 9 1"]
    ["1700 16 9 1 15 2"],
   entry ["Tagbanwa", "Tagb"]
    ["1760 D 1 3 1 2"]
    ["1735 2 29 D 1 3 1 2"],
   entry ["Tai_Le", "Tale"]
    ["1950 1E 2 5"]
    ["300 2 5 2 3 1 D33 A 906 1E 2 5"],
   entry ["Tai_Tham", "Lana"]
    ["1A20 3F 1 1D 2 B 6 A 6 E"]
    [],
   entry ["Tai_Viet", "Tavt"]
    ["AA80 43 18 5"]
    [],
   entry ["Takri", "Takr"]
    ["11680 3A 6 A"]
    ["964 2 9ECA A 6E46 3A 6 A"],
   entry ["Tamil", "Taml"]
    ["B82 2 1 6 3 3 1 4 3 2 1 1 1 2 3 2 3 3 3 C 4 5 3 3 1 4 2 1 6 1 E 15 113C5 32 D 1"]
    ["951 2 11 2 21C 2 1 6 3 3 1 4 3 2 1 1 1 2 3 2 3 3 3 C 4 5 3 3 1 4 2 1 6 1 E 15 10DF 1 8C18 1",
     "6A0D 1 1 1 37 2 C83 32 D 1"],
   entry ["Tangsa", "Tnsa"]
    ["16A70 4F 1 A"]
    [],
   entry ["Tangut", "Tang"]
    ["16FE0 1 1F 1B00 200 1F 61 73"]
    ["2FF0 10 1EF 1 13DF0 1 1F 1B00 200 1F 61 73"],
   entry ["Telugu", "Telu"]
    ["C00 D 1 3 1 17 1 10 2 9 1 3 1 4 7 2 1 3 1 2 2 4 2 A 7 9"]
    ["951 2 11 2 29A D 1 3 1 17 1 10 2 9 1 3 1 4 7 2 1 3 1 2 2 4 2 A 7 9 1055 2 1 1 1 1 17 1"],
   entry ["Thaana", "Thaa"]
    ["780 32"]
    ["60C 1 E 2 2 1 40 A 116 32 F640 1 A 1"],
   entry ["Thai"]
    ["E01 3A 5 1C"]
    ["2BC 1 1A 1 2B 1 2D 1 ACF 3A 5 1C"],
   entry ["Tibetan", "Tibt"]
    ["F00 48 1 24 4 27 1 24 1 F 1 7 4 2"]
    ["F00 48 1 24 4 27 1 24 1 F 1 7 4 2 202D 4"],
   entry ["Tifinagh", "Tfng"]
    ["2D30 38 7 2 E 1"]
    ["302 1 1 1 1 4 19 1 2A0C 38 7 2 E 1"],
   entry ["Tirhuta", "Tirh"]
    ["11480 48 8 A"]
    ["951 2 11 2 136F 1 C 1 F 1 8B3D A 6C46 48 8 A"],
   entry ["Todhri", "Todr"]
    ["105C0 34"]
    ["301 1 2 1 2 1 9 1 1 1 4A 1 10261 34"],
   entry ["Toto"]
    ["1E290 1F"]
    ["2BC 1 1DFD3 1F"],
   entry ["Tulu_Tigalari", "Tutg"]
    ["11380 A 1 1 2 1 1 26 1 A 1 1 2 1 1 4 1 A 1 2 8 2"]
    ["CE6 A 1002 1 1 1 8B3B 6 BB 1 6A8E A 1 1 2 1 1 26 1 A 1 1 2 1 1 4 1 A 1 2 8 2"],
   entry ["Ugaritic", "Ugar"]
    ["10380 1E 1 1"]
    [],
   entry ["Vai", "Vaii"]
    ["A500 12C"]
    [],
   entry ["Vithkuqi", "Vith"]
    ["10570 B 1 F 1 7 1 2 1 B 1 F 1 7 1 2"]
    [],
   entry ["Wancho", "Wcho"]
    ["1E2C0 3A 5 1"]
    [],
   entry ["Warang_Citi", "Wara"]
    ["118A0 53 C 1"]
    [],
   entry ["Yezidi", "Yezi"]
    ["10E80 2A 1 3 2 2"]
    ["60C 1 E 1 3 1 40 A 10816 2A 1 3 2 2"],
   entry ["Yi", "Yiii"]
    ["A000 48D 3 37"]
    ["3001 2 5 A 2 8 DF 1 6F04 48D 3 37 5A9A 5"],
   entry ["Zanabazar_Square", "Zanb"]
    ["11A00 48"]
    []]

end CmsTypings.Unicode.Script
