import StubResolver.Unicode.CodeTable

/-!
# Primary composites

The characters that two characters compose to, Hangul syllables apart. These are the canonical
decompositions into two characters that are not excluded from composition, read backwards.
-/

namespace StubResolver.Unicode

/-- For each first character, the second characters that it composes with, each followed by
the composite. -/
def compositeTable : CodeTable (List Nat) := .ofText CodeTable.codePoints? "
3C:338.226E 3D:338.2260 3E:338.226F
41:300.C0.301.C1.302.C2.303.C3.304.100.306.102.307.226.308.C4.309.1EA2.30A.C5.30C.1CD.30F.200.311.202.323.1EA0.325.1E00.328.104
42:307.1E02.323.1E04.331.1E06 43:301.106.302.108.307.10A.30C.10C.327.C7
44:307.1E0A.30C.10E.323.1E0C.327.1E10.32D.1E12.331.1E0E
45:300.C8.301.C9.302.CA.303.1EBC.304.112.306.114.307.116.308.CB.309.1EBA.30C.11A.30F.204.311.206.323.1EB8.327.228.328.118.32D.1E18.330.1E1A
46:307.1E1E 47:301.1F4.302.11C.304.1E20.306.11E.307.120.30C.1E6.327.122
48:302.124.307.1E22.308.1E26.30C.21E.323.1E24.327.1E28.32E.1E2A
49:300.CC.301.CD.302.CE.303.128.304.12A.306.12C.307.130.308.CF.309.1EC8.30C.1CF.30F.208.311.20A.323.1ECA.328.12E.330.1E2C
4A:302.134 4B:301.1E30.30C.1E8.323.1E32.327.136.331.1E34
4C:301.139.30C.13D.323.1E36.327.13B.32D.1E3C.331.1E3A 4D:301.1E3E.307.1E40.323.1E42
4E:300.1F8.301.143.303.D1.307.1E44.30C.147.323.1E46.327.145.32D.1E4A.331.1E48
4F:300.D2.301.D3.302.D4.303.D5.304.14C.306.14E.307.22E.308.D6.309.1ECE.30B.150.30C.1D1.30F.20C.311.20E.31B.1A0.323.1ECC.328.1EA
50:301.1E54.307.1E56 52:301.154.307.1E58.30C.158.30F.210.311.212.323.1E5A.327.156.331.1E5E
53:301.15A.302.15C.307.1E60.30C.160.323.1E62.326.218.327.15E
54:307.1E6A.30C.164.323.1E6C.326.21A.327.162.32D.1E70.331.1E6E
55:300.D9.301.DA.302.DB.303.168.304.16A.306.16C.308.DC.309.1EE6.30A.16E.30B.170.30C.1D3.30F.214.311.216.31B.1AF.323.1EE4.324.1E72.328.172.32D.1E76.330.1E74
56:303.1E7C.323.1E7E 57:300.1E80.301.1E82.302.174.307.1E86.308.1E84.323.1E88
58:307.1E8A.308.1E8C
59:300.1EF2.301.DD.302.176.303.1EF8.304.232.307.1E8E.308.178.309.1EF6.323.1EF4
5A:301.179.302.1E90.307.17B.30C.17D.323.1E92.331.1E94
61:300.E0.301.E1.302.E2.303.E3.304.101.306.103.307.227.308.E4.309.1EA3.30A.E5.30C.1CE.30F.201.311.203.323.1EA1.325.1E01.328.105
62:307.1E03.323.1E05.331.1E07 63:301.107.302.109.307.10B.30C.10D.327.E7
64:307.1E0B.30C.10F.323.1E0D.327.1E11.32D.1E13.331.1E0F
65:300.E8.301.E9.302.EA.303.1EBD.304.113.306.115.307.117.308.EB.309.1EBB.30C.11B.30F.205.311.207.323.1EB9.327.229.328.119.32D.1E19.330.1E1B
66:307.1E1F 67:301.1F5.302.11D.304.1E21.306.11F.307.121.30C.1E7.327.123
68:302.125.307.1E23.308.1E27.30C.21F.323.1E25.327.1E29.32E.1E2B.331.1E96
69:300.EC.301.ED.302.EE.303.129.304.12B.306.12D.308.EF.309.1EC9.30C.1D0.30F.209.311.20B.323.1ECB.328.12F.330.1E2D
6A:302.135.30C.1F0 6B:301.1E31.30C.1E9.323.1E33.327.137.331.1E35
6C:301.13A.30C.13E.323.1E37.327.13C.32D.1E3D.331.1E3B 6D:301.1E3F.307.1E41.323.1E43
6E:300.1F9.301.144.303.F1.307.1E45.30C.148.323.1E47.327.146.32D.1E4B.331.1E49
6F:300.F2.301.F3.302.F4.303.F5.304.14D.306.14F.307.22F.308.F6.309.1ECF.30B.151.30C.1D2.30F.20D.311.20F.31B.1A1.323.1ECD.328.1EB
70:301.1E55.307.1E57 72:301.155.307.1E59.30C.159.30F.211.311.213.323.1E5B.327.157.331.1E5F
73:301.15B.302.15D.307.1E61.30C.161.323.1E63.326.219.327.15F
74:307.1E6B.308.1E97.30C.165.323.1E6D.326.21B.327.163.32D.1E71.331.1E6F
75:300.F9.301.FA.302.FB.303.169.304.16B.306.16D.308.FC.309.1EE7.30A.16F.30B.171.30C.1D4.30F.215.311.217.31B.1B0.323.1EE5.324.1E73.328.173.32D.1E77.330.1E75
76:303.1E7D.323.1E7F 77:300.1E81.301.1E83.302.175.307.1E87.308.1E85.30A.1E98.323.1E89
78:307.1E8B.308.1E8D
79:300.1EF3.301.FD.302.177.303.1EF9.304.233.307.1E8F.308.FF.309.1EF7.30A.1E99.323.1EF5
7A:301.17A.302.1E91.307.17C.30C.17E.323.1E93.331.1E95 A8:300.1FED.301.385.342.1FC1
C2:300.1EA6.301.1EA4.303.1EAA.309.1EA8 C4:304.1DE C5:301.1FA C6:301.1FC.304.1E2 C7:301.1E08
CA:300.1EC0.301.1EBE.303.1EC4.309.1EC2 CF:301.1E2E D4:300.1ED2.301.1ED0.303.1ED6.309.1ED4
D5:301.1E4C.304.22C.308.1E4E D6:304.22A D8:301.1FE DC:300.1DB.301.1D7.304.1D5.30C.1D9
E2:300.1EA7.301.1EA5.303.1EAB.309.1EA9 E4:304.1DF E5:301.1FB E6:301.1FD.304.1E3 E7:301.1E09
EA:300.1EC1.301.1EBF.303.1EC5.309.1EC3 EF:301.1E2F F4:300.1ED3.301.1ED1.303.1ED7.309.1ED5
F5:301.1E4D.304.22D.308.1E4F F6:304.22B F8:301.1FF FC:300.1DC.301.1D8.304.1D6.30C.1DA
102:300.1EB0.301.1EAE.303.1EB4.309.1EB2 103:300.1EB1.301.1EAF.303.1EB5.309.1EB3
112:300.1E14.301.1E16 113:300.1E15.301.1E17 14C:300.1E50.301.1E52 14D:300.1E51.301.1E53
15A:307.1E64 15B:307.1E65 160:307.1E66 161:307.1E67 168:301.1E78 169:301.1E79 16A:308.1E7A
16B:308.1E7B 17F:307.1E9B 1A0:300.1EDC.301.1EDA.303.1EE0.309.1EDE.323.1EE2
1A1:300.1EDD.301.1EDB.303.1EE1.309.1EDF.323.1EE3
1AF:300.1EEA.301.1EE8.303.1EEE.309.1EEC.323.1EF0
1B0:300.1EEB.301.1EE9.303.1EEF.309.1EED.323.1EF1 1B7:30C.1EE 1EA:304.1EC 1EB:304.1ED 226:304.1E0
227:304.1E1 228:306.1E1C 229:306.1E1D 22E:304.230 22F:304.231 292:30C.1EF
391:300.1FBA.301.386.304.1FB9.306.1FB8.313.1F08.314.1F09.345.1FBC
395:300.1FC8.301.388.313.1F18.314.1F19 397:300.1FCA.301.389.313.1F28.314.1F29.345.1FCC
399:300.1FDA.301.38A.304.1FD9.306.1FD8.308.3AA.313.1F38.314.1F39
39F:300.1FF8.301.38C.313.1F48.314.1F49 3A1:314.1FEC
3A5:300.1FEA.301.38E.304.1FE9.306.1FE8.308.3AB.314.1F59
3A9:300.1FFA.301.38F.313.1F68.314.1F69.345.1FFC 3AC:345.1FB4 3AE:345.1FC4
3B1:300.1F70.301.3AC.304.1FB1.306.1FB0.313.1F00.314.1F01.342.1FB6.345.1FB3
3B5:300.1F72.301.3AD.313.1F10.314.1F11 3B7:300.1F74.301.3AE.313.1F20.314.1F21.342.1FC6.345.1FC3
3B9:300.1F76.301.3AF.304.1FD1.306.1FD0.308.3CA.313.1F30.314.1F31.342.1FD6
3BF:300.1F78.301.3CC.313.1F40.314.1F41 3C1:313.1FE4.314.1FE5
3C5:300.1F7A.301.3CD.304.1FE1.306.1FE0.308.3CB.313.1F50.314.1F51.342.1FE6
3C9:300.1F7C.301.3CE.313.1F60.314.1F61.342.1FF6.345.1FF3 3CA:300.1FD2.301.390.342.1FD7
3CB:300.1FE2.301.3B0.342.1FE7 3CE:345.1FF4 3D2:301.3D3.308.3D4 406:308.407 410:306.4D0.308.4D2
413:301.403 415:300.400.306.4D6.308.401 416:306.4C1.308.4DC 417:308.4DE
418:300.40D.304.4E2.306.419.308.4E4 41A:301.40C 41E:308.4E6 423:304.4EE.306.40E.308.4F0.30B.4F2
427:308.4F4 42B:308.4F8 42D:308.4EC 430:306.4D1.308.4D3 433:301.453 435:300.450.306.4D7.308.451
436:306.4C2.308.4DD 437:308.4DF 438:300.45D.304.4E3.306.439.308.4E5 43A:301.45C 43E:308.4E7
443:304.4EF.306.45E.308.4F1.30B.4F3 447:308.4F5 44B:308.4F9 44D:308.4ED 456:308.457 474:30F.476
475:30F.477 4D8:308.4DA 4D9:308.4DB 4E8:308.4EA 4E9:308.4EB 627:653.622.654.623.655.625
648:654.624 64A:654.626 6C1:654.6C2 6D2:654.6D3 6D5:654.6C0 928:93C.929 930:93C.931 933:93C.934
9C7:9BE.9CB.9D7.9CC B47:B3E.B4B.B56.B48.B57.B4C B92:BD7.B94 BC6:BBE.BCA.BD7.BCC BC7:BBE.BCB
C46:C56.C48 CBF:CD5.CC0 CC6:CC2.CCA.CD5.CC7.CD6.CC8 CCA:CD5.CCB D46:D3E.D4A.D57.D4C D47:D3E.D4B
DD9:DCA.DDA.DCF.DDC.DDF.DDE DDC:DCA.DDD 1025:102E.1026 1B05:1B35.1B06 1B07:1B35.1B08
1B09:1B35.1B0A 1B0B:1B35.1B0C 1B0D:1B35.1B0E 1B11:1B35.1B12 1B3A:1B35.1B3B 1B3C:1B35.1B3D
1B3E:1B35.1B40 1B3F:1B35.1B41 1B42:1B35.1B43 1E36:304.1E38 1E37:304.1E39 1E5A:304.1E5C
1E5B:304.1E5D 1E62:307.1E68 1E63:307.1E69 1EA0:302.1EAC.306.1EB6 1EA1:302.1EAD.306.1EB7
1EB8:302.1EC6 1EB9:302.1EC7 1ECC:302.1ED8 1ECD:302.1ED9 1F00:300.1F02.301.1F04.342.1F06.345.1F80
1F01:300.1F03.301.1F05.342.1F07.345.1F81 1F02:345.1F82 1F03:345.1F83 1F04:345.1F84 1F05:345.1F85
1F06:345.1F86 1F07:345.1F87 1F08:300.1F0A.301.1F0C.342.1F0E.345.1F88
1F09:300.1F0B.301.1F0D.342.1F0F.345.1F89 1F0A:345.1F8A 1F0B:345.1F8B 1F0C:345.1F8C 1F0D:345.1F8D
1F0E:345.1F8E 1F0F:345.1F8F 1F10:300.1F12.301.1F14 1F11:300.1F13.301.1F15 1F18:300.1F1A.301.1F1C
1F19:300.1F1B.301.1F1D 1F20:300.1F22.301.1F24.342.1F26.345.1F90
1F21:300.1F23.301.1F25.342.1F27.345.1F91 1F22:345.1F92 1F23:345.1F93 1F24:345.1F94 1F25:345.1F95
1F26:345.1F96 1F27:345.1F97 1F28:300.1F2A.301.1F2C.342.1F2E.345.1F98
1F29:300.1F2B.301.1F2D.342.1F2F.345.1F99 1F2A:345.1F9A 1F2B:345.1F9B 1F2C:345.1F9C 1F2D:345.1F9D
1F2E:345.1F9E 1F2F:345.1F9F 1F30:300.1F32.301.1F34.342.1F36 1F31:300.1F33.301.1F35.342.1F37
1F38:300.1F3A.301.1F3C.342.1F3E 1F39:300.1F3B.301.1F3D.342.1F3F 1F40:300.1F42.301.1F44
1F41:300.1F43.301.1F45 1F48:300.1F4A.301.1F4C 1F49:300.1F4B.301.1F4D
1F50:300.1F52.301.1F54.342.1F56 1F51:300.1F53.301.1F55.342.1F57 1F59:300.1F5B.301.1F5D.342.1F5F
1F60:300.1F62.301.1F64.342.1F66.345.1FA0 1F61:300.1F63.301.1F65.342.1F67.345.1FA1 1F62:345.1FA2
1F63:345.1FA3 1F64:345.1FA4 1F65:345.1FA5 1F66:345.1FA6 1F67:345.1FA7
1F68:300.1F6A.301.1F6C.342.1F6E.345.1FA8 1F69:300.1F6B.301.1F6D.342.1F6F.345.1FA9 1F6A:345.1FAA
1F6B:345.1FAB 1F6C:345.1FAC 1F6D:345.1FAD 1F6E:345.1FAE 1F6F:345.1FAF 1F70:345.1FB2
1F74:345.1FC2 1F7C:345.1FF2 1FB6:345.1FB7 1FBF:300.1FCD.301.1FCE.342.1FCF 1FC6:345.1FC7
1FF6:345.1FF7 1FFE:300.1FDD.301.1FDE.342.1FDF 2190:338.219A 2192:338.219B 2194:338.21AE
21D0:338.21CD 21D2:338.21CF 21D4:338.21CE 2203:338.2204 2208:338.2209 220B:338.220C
2223:338.2224 2225:338.2226 223C:338.2241 2243:338.2244 2245:338.2247 2248:338.2249
224D:338.226D 2261:338.2262 2264:338.2270 2265:338.2271 2272:338.2274 2273:338.2275
2276:338.2278 2277:338.2279 227A:338.2280 227B:338.2281 227C:338.22E0 227D:338.22E1
2282:338.2284 2283:338.2285 2286:338.2288 2287:338.2289 2291:338.22E2 2292:338.22E3
22A2:338.22AC 22A8:338.22AD 22A9:338.22AE 22AB:338.22AF 22B2:338.22EA 22B3:338.22EB
22B4:338.22EC 22B5:338.22ED 3046:3099.3094 304B:3099.304C 304D:3099.304E 304F:3099.3050
3051:3099.3052 3053:3099.3054 3055:3099.3056 3057:3099.3058 3059:3099.305A 305B:3099.305C
305D:3099.305E 305F:3099.3060 3061:3099.3062 3064:3099.3065 3066:3099.3067 3068:3099.3069
306F:3099.3070.309A.3071 3072:3099.3073.309A.3074 3075:3099.3076.309A.3077
3078:3099.3079.309A.307A 307B:3099.307C.309A.307D 309D:3099.309E 30A6:3099.30F4 30AB:3099.30AC
30AD:3099.30AE 30AF:3099.30B0 30B1:3099.30B2 30B3:3099.30B4 30B5:3099.30B6 30B7:3099.30B8
30B9:3099.30BA 30BB:3099.30BC 30BD:3099.30BE 30BF:3099.30C0 30C1:3099.30C2 30C4:3099.30C5
30C6:3099.30C7 30C8:3099.30C9 30CF:3099.30D0.309A.30D1 30D2:3099.30D3.309A.30D4
30D5:3099.30D6.309A.30D7 30D8:3099.30D9.309A.30DA 30DB:3099.30DC.309A.30DD 30EF:3099.30F7
30F0:3099.30F8 30F1:3099.30F9 30F2:3099.30FA 30FD:3099.30FE 11099:110BA.1109A 1109B:110BA.1109C
110A5:110BA.110AB 11131:11127.1112E 11132:11127.1112F 11347:1133E.1134B.11357.1134C
114B9:114B0.114BC.114BA.114BB.114BD.114BE 115B8:115AF.115BA 115B9:115AF.115BB 11935:11930.11938
"

/-- The composite of two characters that has an entry in the table. -/
def tableComposite? (a b : Char) : Option Char :=
  ((compositeTable.value? a).bind (lookUp b.toNat)).map Char.ofNat
where
  /-- The entry that follows a second character. -/
  lookUp (second : Nat) : List Nat → Option Nat
    | n :: composite :: rest => if n = second then some composite else lookUp second rest
    | _ => none

end StubResolver.Unicode
