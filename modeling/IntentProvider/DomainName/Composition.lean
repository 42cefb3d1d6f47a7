import IntentProvider.Text.CodePoints

/-!
The composed normal form of text (Unicode Normalization Form C), for the characters that domain
names have: characters are taken apart, the marks on one character are put into the order of their
classes, and what can be composed is. The tables hold no other characters, but ranges may run over
some that no domain name has.
-/

namespace IntentProvider.DomainName

open IntentProvider.Text

/-- The combining classes other than zero, with their characters. -/
def classTable : List (Nat × CodePoints) :=
  [(1, .ofLines
     ["334-338 1CD4 1CE2-1CE8 20D2-20D3 20D8-20DA 20E5-20E6 20EA-20EB 10A39 16AF0-16AF4 1BC9E",
      "1D167-1D169"]),
   (6, .ofLines
     ["16FF0-16FF1"]),
   (7, .ofLines
     ["93C 9BC A3C ABC B3C C3C CBC 1037 1B34 1BE6 1C37 A9B3 110BA 11173 111CA 11236 112E9",
      "1133B-1133C 11446 114C3 115C0 116B7 1183A 11943 11D42 1E94A"]),
   (8, .ofLines
     ["3099-309A"]),
   (9, .ofLines
     ["94D 9CD A4D ACD B4D BCD C4D CCD D3B-D3C D4D DCA E3A EBA F84 1039-103A 1714-1715 1734 17D2",
      "1A60 1B44 1BAA-1BAB 1BF2-1BF3 2D7F A806 A82C A8C4 A953 A9C0 AAF6 ABED 10A3F 11046 11070",
      "1107F 110B9 11133-11134 111C0 11235 112EA 1134D 113CE-113D0 11442 114C2 115BF 1163F 116B6",
      "1172B 11839 1193D-1193E 119E0 11A34 11A47 11A99 11C3F 11D44-11D45 11D97 11F41-11F42 1612F"]),
   (10, .ofLines
     ["5B0"]),
   (11, .ofLines
     ["5B1"]),
   (12, .ofLines
     ["5B2"]),
   (13, .ofLines
     ["5B3"]),
   (14, .ofLines
     ["5B4"]),
   (15, .ofLines
     ["5B5"]),
   (16, .ofLines
     ["5B6"]),
   (17, .ofLines
     ["5B7"]),
   (18, .ofLines
     ["5B8 5C7"]),
   (19, .ofLines
     ["5B9-5BA"]),
   (20, .ofLines
     ["5BB"]),
   (21, .ofLines
     ["5BC"]),
   (22, .ofLines
     ["5BD"]),
   (23, .ofLines
     ["5BF"]),
   (24, .ofLines
     ["5C1"]),
   (25, .ofLines
     ["5C2"]),
   (26, .ofLines
     ["FB1E"]),
   (27, .ofLines
     ["64B 8F0"]),
   (28, .ofLines
     ["64C 8F1"]),
   (29, .ofLines
     ["64D 8F2"]),
   (30, .ofLines
     ["618 64E"]),
   (31, .ofLines
     ["619 64F"]),
   (32, .ofLines
     ["61A 650"]),
   (33, .ofLines
     ["651"]),
   (34, .ofLines
     ["652"]),
   (35, .ofLines
     ["670"]),
   (36, .ofLines
     ["711"]),
   (84, .ofLines
     ["C55"]),
   (91, .ofLines
     ["C56"]),
   (103, .ofLines
     ["E38-E39"]),
   (107, .ofLines
     ["E48-E4B"]),
   (118, .ofLines
     ["EB8-EB9"]),
   (122, .ofLines
     ["EC8-ECB"]),
   (129, .ofLines
     ["F71"]),
   (130, .ofLines
     ["F72 F7A-F7D F80"]),
   (132, .ofLines
     ["F74"]),
   (202, .ofLines
     ["321-322 327-328 1DD0"]),
   (214, .ofLines
     ["1DCE"]),
   (216, .ofLines
     ["31B F39 1D165-1D166 1D16E-1D172"]),
   (218, .ofLines
     ["1DFA 302A"]),
   (220, .ofLines
     ["316-319 31C-320 323-326 329-333 339-33C 347-349 34D-34E 353-356 359-35A 591 596 59B 5A2-5A7",
      "5AA 5C5 655-656 65C 65F 6E3 6EA 6ED 731 734 737-739 73B-73C 73E 742 744 746 748 7F2 7FD",
      "859-85B 899-89B 8CF-8D3 8E3 8E6 8E9 8ED-8EF 8F6 8F9-8FA 952 F18-F19 F35 F37 FC6 108D 193B",
      "1A18 1A7F 1AB5-1ABA 1ABD 1ABF-1AC0 1AC3-1AC4 1ACA 1ADD 1AE6 1B6C 1CD5-1CD9 1CDC-1CDF 1CED",
      "1DC2 1DCA 1DCF 1DF9 1DFD 1DFF 20E8 20EC-20EF A92B-A92D AAB4 FE27-FE2D 101FD 102E0 10A0D",
      "10A3A 10AE6 10EFA-10EFB 10EFD-10EFF 10F46-10F47 10F4B 10F4D-10F50 10F83 10F85 1D17B-1D182",
      "1D18A-1D18B 1E4EE 1E5EF 1E8D0-1E8D6"]),
   (222, .ofLines
     ["59A 5AD 1939 302D"]),
   (224, .ofLines
     ["302E-302F"]),
   (226, .ofLines
     ["1D16D"]),
   (228, .ofLines
     ["5AE 18A9 1DF7-1DF8 302B"]),
   (230, .ofLines
     ["300-314 33D-346 34A-34C 350-352 357 35B 363-36F 483-487 592-595 597-599 59C-5A1 5A8-5A9",
      "5AB-5AC 5AF 5C4 610-617 653-654 657-65B 65D-65E 6D6-6DC 6DF-6E2 6E4 6E7-6E8 6EB-6EC 730",
      "732-733 735-736 73A 73D 73F-741 743 745 747 749-74A 7EB-7F1 7F3 816-819 81B-823 825-827",
      "829-82D 897-898 89C-89F 8CA-8CE 8D4-8E1 8E4-8E5 8E7-8E8 8EA-8EC 8F3-8F5 8F7-8F8 8FB-8FF 951",
      "953-954 9FE F82-F83 F86-F87 135D-135F 17DD 193A 1A17 1A75-1A7C 1AB0-1AB4 1ABB-1ABC",
      "1AC1-1AC2 1AC5-1AC9 1ACB-1ADC 1AE0-1AE5 1AE7-1AEA 1B6B 1B6D-1B73 1CD0-1CD2 1CDA-1CDB 1CE0",
      "1CF4 1CF8-1CF9 1DC0-1DC1 1DC3-1DC9 1DCB-1DCC 1DD1-1DF5 1DFB 1DFE 20D0-20D1 20D4-20D7",
      "20DB-20DC 20E1 20E7 20E9 20F0 2CEF-2CF1 2DE0-2DFF A66F A674-A67D A69E-A69F A6F0-A6F1",
      "A8E0-A8F1 AAB0 AAB2-AAB3 AAB7-AAB8 AABE-AABF AAC1 FE20-FE26 FE2E-FE2F 10376-1037A 10A0F",
      "10A38 10AE5 10D24-10D27 10D69-10D6D 10EAB-10EAC 10F48-10F4A 10F4C 10F82 10F84 11100-11102",
      "11366-11374 1145E 16B30-16B36 1D185-1D189 1D1AA-1D1AD 1D242-1D244 1E000-1E08F 1E130-1E136",
      "1E2AE 1E2EC-1E2EF 1E4EF 1E5EE 1E6E3 1E6E6 1E6EE-1E6EF 1E6F5 1E944-1E949"]),
   (232, .ofLines
     ["315 31A 358 1DF6 302C 1E4EC-1E4ED"]),
   (233, .ofLines
     ["35C 35F 362 1DFC"]),
   (234, .ofLines
     ["35D-35E 360-361 1AEB 1DCD"])]

/-- The combining class of a character. -/
def combiningClass (c : Char) : Nat :=
  ((classTable.find? fun row => row.2.has c.toNat).map Prod.fst).getD 0

/-- Second characters of compositions, with the first ones, each with a colon and what the two
compose. -/
def pairTable : List (Nat × List String) :=
  [(0x300,
     ["61:E0 65:E8 69:EC 6F:F2 75:F9 FC:1DC 6E:1F9 435:450 438:45D 113:1E15 14D:1E51 77:1E81",
      "E2:1EA7 103:1EB1 EA:1EC1 F4:1ED3 1A1:1EDD 1B0:1EEB 79:1EF3 1F00:1F02 1F01:1F03 1F10:1F12",
      "1F11:1F13 1F20:1F22 1F21:1F23 1F30:1F32 1F31:1F33 1F40:1F42 1F41:1F43 1F50:1F52 1F51:1F53",
      "1F60:1F62 1F61:1F63 3B1:1F70 3B5:1F72 3B7:1F74 3B9:1F76 3BF:1F78 3C5:1F7A 3C9:1F7C 3CA:1FD2",
      "3CB:1FE2"]),
   (0x301,
     ["61:E1 65:E9 69:ED 6F:F3 75:FA 79:FD 63:107 6C:13A 6E:144 72:155 73:15B 7A:17A FC:1D8 67:1F5",
      "E5:1FB E6:1FD F8:1FF 3CA:390 3B1:3AC 3B5:3AD 3B7:3AE 3B9:3AF 3CB:3B0 3BF:3CC 3C5:3CD",
      "3C9:3CE 433:453 43A:45C E7:1E09 113:1E17 EF:1E2F 6B:1E31 6D:1E3F F5:1E4D 14D:1E53 70:1E55",
      "169:1E79 77:1E83 E2:1EA5 103:1EAF EA:1EBF F4:1ED1 1A1:1EDB 1B0:1EE9 1F00:1F04 1F01:1F05",
      "1F10:1F14 1F11:1F15 1F20:1F24 1F21:1F25 1F30:1F34 1F31:1F35 1F40:1F44 1F41:1F45 1F50:1F54",
      "1F51:1F55 1F60:1F64 1F61:1F65"]),
   (0x302,
     ["61:E2 65:EA 69:EE 6F:F4 75:FB 63:109 67:11D 68:125 6A:135 73:15D 77:175 79:177 7A:1E91",
      "1EA1:1EAD 1EB9:1EC7 1ECD:1ED9"]),
   (0x303,
     ["61:E3 6E:F1 6F:F5 69:129 75:169 76:1E7D E2:1EAB 103:1EB5 65:1EBD EA:1EC5 F4:1ED7 1A1:1EE1",
      "1B0:1EEF 79:1EF9"]),
   (0x304,
     ["61:101 65:113 69:12B 6F:14D 75:16B FC:1D6 E4:1DF 227:1E1 E6:1E3 1EB:1ED F6:22B F5:22D",
      "22F:231 79:233 438:4E3 443:4EF 67:1E21 1E37:1E39 1E5B:1E5D 3B1:1FB1 3B9:1FD1 3C5:1FE1"]),
   (0x306,
     ["61:103 65:115 67:11F 69:12D 6F:14F 75:16D 438:439 443:45E 436:4C2 430:4D1 435:4D7 229:1E1D",
      "1EA1:1EB7 3B1:1FB0 3B9:1FD0 3C5:1FE0"]),
   (0x307,
     ["63:10B 65:117 67:121 7A:17C 61:227 6F:22F 62:1E03 64:1E0B 66:1E1F 68:1E23 6D:1E41 6E:1E45",
      "70:1E57 72:1E59 73:1E61 15B:1E65 161:1E67 1E63:1E69 74:1E6B 77:1E87 78:1E8B 79:1E8F",
      "105D2:105C9 105DA:105E4"]),
   (0x308,
     ["61:E4 65:EB 69:EF 6F:F6 75:FC 79:FF 3B9:3CA 3C5:3CB 435:451 456:457 430:4D3 4D9:4DB 436:4DD",
      "437:4DF 438:4E5 43E:4E7 4E9:4EB 44D:4ED 443:4F1 447:4F5 44B:4F9 68:1E27 F5:1E4F 16B:1E7B",
      "77:1E85 78:1E8D 74:1E97"]),
   (0x309,
     ["61:1EA3 E2:1EA9 103:1EB3 65:1EBB EA:1EC3 69:1EC9 6F:1ECF F4:1ED5 1A1:1EDF 75:1EE7 1B0:1EED",
      "79:1EF7"]),
   (0x30A, ["61:E5 75:16F 77:1E98 79:1E99"]),
   (0x30B, ["6F:151 75:171 443:4F3"]),
   (0x30C,
     ["63:10D 64:10F 65:11B 6C:13E 6E:148 72:159 73:161 74:165 7A:17E 61:1CE 69:1D0 6F:1D2 75:1D4",
      "FC:1DA 67:1E7 6B:1E9 292:1EF 6A:1F0 68:21F"]),
   (0x30F, ["61:201 65:205 69:209 6F:20D 72:211 75:215 475:477"]),
   (0x311, ["61:203 65:207 69:20B 6F:20F 72:213 75:217"]),
   (0x313,
     ["3B1:1F00 3B5:1F10 3B7:1F20 3B9:1F30 3BF:1F40 3C5:1F50 3C9:1F60 3C1:1FE4"]),
   (0x314,
     ["3B1:1F01 3B5:1F11 3B7:1F21 3B9:1F31 3BF:1F41 3C5:1F51 3C9:1F61 3C1:1FE5"]),
   (0x31B, ["6F:1A1 75:1B0"]),
   (0x323,
     ["62:1E05 64:1E0D 68:1E25 6B:1E33 6C:1E37 6D:1E43 6E:1E47 72:1E5B 73:1E63 74:1E6D 76:1E7F",
      "77:1E89 7A:1E93 61:1EA1 65:1EB9 69:1ECB 6F:1ECD 1A1:1EE3 75:1EE5 1B0:1EF1 79:1EF5"]),
   (0x324, ["75:1E73"]),
   (0x325, ["61:1E01"]),
   (0x326, ["73:219 74:21B"]),
   (0x327,
     ["63:E7 67:123 6B:137 6C:13C 6E:146 72:157 73:15F 74:163 65:229 64:1E11 68:1E29"]),
   (0x328, ["61:105 65:119 69:12F 75:173 6F:1EB"]),
   (0x32D, ["64:1E13 65:1E19 6C:1E3D 6E:1E4B 74:1E71 75:1E77"]),
   (0x32E, ["68:1E2B"]),
   (0x330, ["65:1E1B 69:1E2D 75:1E75"]),
   (0x331,
     ["62:1E07 64:1E0F 6B:1E35 6C:1E3B 6E:1E49 72:1E5F 74:1E6F 7A:1E95 68:1E96"]),
   (0x338,
     ["2190:219A 2192:219B 2194:21AE 21D0:21CD 21D4:21CE 21D2:21CF 2203:2204 2208:2209 220B:220C",
      "2223:2224 2225:2226 223C:2241 2243:2244 2245:2247 2248:2249 3D:2260 2261:2262 224D:226D",
      "3C:226E 3E:226F 2264:2270 2265:2271 2272:2274 2273:2275 2276:2278 2277:2279 227A:2280",
      "227B:2281 2282:2284 2283:2285 2286:2288 2287:2289 22A2:22AC 22A8:22AD 22A9:22AE 22AB:22AF",
      "227C:22E0 227D:22E1 2291:22E2 2292:22E3 22B2:22EA 22B3:22EB 22B4:22EC 22B5:22ED"]),
   (0x342,
     ["1F00:1F06 1F01:1F07 1F20:1F26 1F21:1F27 1F30:1F36 1F31:1F37 1F50:1F56 1F51:1F57 1F60:1F66",
      "1F61:1F67 3B1:1FB6 3B7:1FC6 3B9:1FD6 3CA:1FD7 3C5:1FE6 3CB:1FE7 3C9:1FF6"]),
   (0x653, ["627:622"]),
   (0x654, ["627:623 648:624 64A:626 6D5:6C0 6C1:6C2 6D2:6D3"]),
   (0x655, ["627:625"]),
   (0x93C, ["928:929 930:931 933:934"]),
   (0x9BE, ["9C7:9CB"]),
   (0x9D7, ["9C7:9CC"]),
   (0xB3E, ["B47:B4B"]),
   (0xB56, ["B47:B48"]),
   (0xB57, ["B47:B4C"]),
   (0xBBE, ["BC6:BCA BC7:BCB"]),
   (0xBD7, ["B92:B94 BC6:BCC"]),
   (0xC56, ["C46:C48"]),
   (0xCC2, ["CC6:CCA"]),
   (0xCD5, ["CBF:CC0 CC6:CC7 CCA:CCB"]),
   (0xCD6, ["CC6:CC8"]),
   (0xD3E, ["D46:D4A D47:D4B"]),
   (0xD57, ["D46:D4C"]),
   (0xDCA, ["DD9:DDA DDC:DDD"]),
   (0xDCF, ["DD9:DDC"]),
   (0xDDF, ["DD9:DDE"]),
   (0x102E, ["1025:1026"]),
   (0x1B35,
     ["1B05:1B06 1B07:1B08 1B09:1B0A 1B0B:1B0C 1B0D:1B0E 1B11:1B12 1B3A:1B3B 1B3C:1B3D 1B3E:1B40",
      "1B3F:1B41 1B42:1B43"]),
   (0x3099,
     ["304B:304C 304D:304E 304F:3050 3051:3052 3053:3054 3055:3056 3057:3058 3059:305A 305B:305C",
      "305D:305E 305F:3060 3061:3062 3064:3065 3066:3067 3068:3069 306F:3070 3072:3073 3075:3076",
      "3078:3079 307B:307C 3046:3094 309D:309E 30AB:30AC 30AD:30AE 30AF:30B0 30B1:30B2 30B3:30B4",
      "30B5:30B6 30B7:30B8 30B9:30BA 30BB:30BC 30BD:30BE 30BF:30C0 30C1:30C2 30C4:30C5 30C6:30C7",
      "30C8:30C9 30CF:30D0 30D2:30D3 30D5:30D6 30D8:30D9 30DB:30DC 30A6:30F4 30EF:30F7 30F0:30F8",
      "30F1:30F9 30F2:30FA 30FD:30FE"]),
   (0x309A,
     ["306F:3071 3072:3074 3075:3077 3078:307A 307B:307D 30CF:30D1 30D2:30D4 30D5:30D7 30D8:30DA",
      "30DB:30DD"]),
   (0x110BA, ["11099:1109A 1109B:1109C 110A5:110AB"]),
   (0x11127, ["11131:1112E 11132:1112F"]),
   (0x1133E, ["11347:1134B"]),
   (0x11357, ["11347:1134C"]),
   (0x113B8, ["113C2:113C7"]),
   (0x113BB, ["11384:11385"]),
   (0x113C2, ["1138B:1138E 113C2:113C5"]),
   (0x113C9, ["11382:11383 11390:11391 113C2:113C8"]),
   (0x114B0, ["114B9:114BC"]),
   (0x114BA, ["114B9:114BB"]),
   (0x114BD, ["114B9:114BE"]),
   (0x115AF, ["115B8:115BA 115B9:115BB"]),
   (0x11930, ["11935:11938"]),
   (0x1611E, ["1611E:16121"]),
   (0x1611F, ["1611E:16123 16129:16124 16121:16126 16122:16127"]),
   (0x16120, ["1611E:16125 16121:16128"]),
   (0x16129, ["1611E:16122"]),
   (0x16D67, ["16D67:16D68 16D63:16D69 16D69:16D6A"])]

/-- Characters that two others compose. -/
structure Composition where
  first : Nat
  second : Nat
  composed : Nat

/-- The composition of a field of the table, with a mark. -/
def Composition.ofField (second : Nat) (field : List Char) : Composition where
  first := CodePoints.number (field.takeWhile (· != ':'))
  second := second
  composed := CodePoints.number ((field.dropWhile (· != ':')).drop 1)

/-- The compositions of the table. -/
def compositions : List Composition :=
  pairTable.flatMap fun row => (CodePoints.fields row.2).map (Composition.ofField row.1)

/-- The syllable of Hangul that two characters compose: a leading consonant with a vowel, or a
syllable that ends in a vowel with a trailing consonant. The syllables begin at U+AC00, with 28 for
every vowel and 588 for every leading consonant. -/
def syllable? (a b : Nat) : Option Nat :=
  if 0x1100 ≤ a && a < 0x1113 && 0x1161 ≤ b && b < 0x1176 then
    some (0xAC00 + (a - 0x1100) * 588 + (b - 0x1161) * 28)
  else if 0xAC00 ≤ a && a < 0xD7A4 && (a - 0xAC00) % 28 == 0 && 0x11A8 ≤ b && b < 0x11C3 then
    some (a + (b - 0x11A7))
  else none

/-- The two characters that compose a syllable of Hangul. -/
def syllableParts? (n : Nat) : Option (Nat × Nat) :=
  if 0xAC00 ≤ n && n < 0xD7A4 then
    let s := n - 0xAC00
    if s % 28 == 0 then some (0x1100 + s / 588, 0x1161 + s % 588 / 28)
    else some (n - s % 28, 0x11A7 + s % 28)
  else none

/-- The character that two characters compose. -/
def compose? (a b : Char) : Option Char :=
  ((syllable? a.toNat b.toNat).or
    ((compositions.find? fun p => p.second == b.toNat && p.first == a.toNat).map
      Composition.composed)).map Char.ofNat

/-- The two characters that compose a character. -/
def parts? (c : Char) : Option (Char × Char) :=
  ((syllableParts? c.toNat).or
    ((compositions.find? (·.composed == c.toNat)).map fun p => (p.first, p.second))).map
      fun p => (Char.ofNat p.1, Char.ofNat p.2)

/-- A character taken apart. The first of its two parts may have two parts of its own, which have
none. -/
def decompose (c : Char) : List Char :=
  match parts? c with
  | none => [c]
  | some (a, b) =>
    match parts? a with
    | none => [a, b]
    | some (a₁, a₂) => [a₁, a₂, b]

/-- Puts a character in front of a text, behind the marks there whose classes are lower than its
own. -/
def insertMark (c : Char) : List Char → List Char
  | [] => [c]
  | d :: ds =>
    if 0 < combiningClass d && combiningClass d < combiningClass c then d :: insertMark c ds
    else c :: d :: ds

/-- A text with the marks on each character in the order of their classes. -/
def arrange (cs : List Char) : List Char :=
  cs.foldr insertMark []

/-- Composes a character with the marks after it. Between the two are the marks that stay, last
first, and the class of the last of them; a mark composes if that class is lower than its own. -/
def composeFrom (base : Char) (between : List Char) (last : Nat) : List Char → List Char
  | [] => base :: between.reverse
  | c :: cs =>
    let k := combiningClass c
    match if between.isEmpty || last < k then compose? base c else none with
    | some d => composeFrom d between last cs
    | none =>
      if k = 0 then base :: (between.reverse ++ composeFrom c [] 0 cs)
      else composeFrom base (c :: between) k cs

/-- The composed normal form of a text. -/
def normalForm (cs : List Char) : List Char :=
  match arrange (cs.flatMap decompose) with
  | [] => []
  | c :: cs => composeFrom c [] 0 cs

end IntentProvider.DomainName
