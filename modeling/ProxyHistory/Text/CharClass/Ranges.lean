import ProxyHistory.Text.Packed

/-!
# Ranges of the character classes

The code points from U+0080 on that belong to a class, as the bounds of their ranges in increasing
order.
-/

namespace ProxyHistory.Text.CharClass

/-- Letters, marks, decimal digits, connecting punctuation and joiners. -/
def wordRanges : List (Nat × Nat) :=
  [(0xAA, 0xAA), (0xB5, 0xB5), (0xBA, 0xBA), (0xC0, 0xD6), (0xD8, 0xF6), (0xF8, 0x2C1),
   (0x2C6, 0x2D1), (0x2E0, 0x2E4), (0x2EC, 0x2EC), (0x2EE, 0x2EE), (0x300, 0x374), (0x376, 0x377),
   (0x37A, 0x37D), (0x37F, 0x37F), (0x386, 0x386), (0x388, 0x38A), (0x38C, 0x38C), (0x38E, 0x3A1),
   (0x3A3, 0x3F5), (0x3F7, 0x481), (0x483, 0x52F), (0x531, 0x556), (0x559, 0x559), (0x560, 0x588),
   (0x591, 0x5BD), (0x5BF, 0x5BF), (0x5C1, 0x5C2), (0x5C4, 0x5C5), (0x5C7, 0x5C7), (0x5D0, 0x5EA),
   (0x5EF, 0x5F2), (0x610, 0x61A), (0x620, 0x669), (0x66E, 0x6D3), (0x6D5, 0x6DC), (0x6DF, 0x6E8),
   (0x6EA, 0x6FC), (0x6FF, 0x6FF), (0x710, 0x74A), (0x74D, 0x7B1), (0x7C0, 0x7F5), (0x7FA, 0x7FA),
   (0x7FD, 0x7FD), (0x800, 0x82D), (0x840, 0x85B), (0x860, 0x86A), (0x870, 0x887), (0x889, 0x88F),
   (0x897, 0x8E1), (0x8E3, 0x963), (0x966, 0x96F), (0x971, 0x983), (0x985, 0x98C), (0x98F, 0x990),
   (0x993, 0x9A8), (0x9AA, 0x9B0), (0x9B2, 0x9B2), (0x9B6, 0x9B9), (0x9BC, 0x9C4), (0x9C7, 0x9C8),
   (0x9CB, 0x9CE), (0x9D7, 0x9D7), (0x9DC, 0x9DD), (0x9DF, 0x9E3), (0x9E6, 0x9F1), (0x9FC, 0x9FC),
   (0x9FE, 0x9FE), (0xA01, 0xA03), (0xA05, 0xA0A), (0xA0F, 0xA10), (0xA13, 0xA28), (0xA2A, 0xA30),
   (0xA32, 0xA33), (0xA35, 0xA36), (0xA38, 0xA39), (0xA3C, 0xA3C), (0xA3E, 0xA42), (0xA47, 0xA48),
   (0xA4B, 0xA4D), (0xA51, 0xA51), (0xA59, 0xA5C), (0xA5E, 0xA5E), (0xA66, 0xA75), (0xA81, 0xA83),
   (0xA85, 0xA8D), (0xA8F, 0xA91), (0xA93, 0xAA8), (0xAAA, 0xAB0), (0xAB2, 0xAB3), (0xAB5, 0xAB9),
   (0xABC, 0xAC5), (0xAC7, 0xAC9), (0xACB, 0xACD), (0xAD0, 0xAD0), (0xAE0, 0xAE3), (0xAE6, 0xAEF),
   (0xAF9, 0xAFF), (0xB01, 0xB03), (0xB05, 0xB0C), (0xB0F, 0xB10), (0xB13, 0xB28), (0xB2A, 0xB30),
   (0xB32, 0xB33), (0xB35, 0xB39), (0xB3C, 0xB44), (0xB47, 0xB48), (0xB4B, 0xB4D), (0xB55, 0xB57),
   (0xB5C, 0xB5D), (0xB5F, 0xB63), (0xB66, 0xB6F), (0xB71, 0xB71), (0xB82, 0xB83), (0xB85, 0xB8A),
   (0xB8E, 0xB90), (0xB92, 0xB95), (0xB99, 0xB9A), (0xB9C, 0xB9C), (0xB9E, 0xB9F), (0xBA3, 0xBA4),
   (0xBA8, 0xBAA), (0xBAE, 0xBB9), (0xBBE, 0xBC2), (0xBC6, 0xBC8), (0xBCA, 0xBCD), (0xBD0, 0xBD0),
   (0xBD7, 0xBD7), (0xBE6, 0xBEF), (0xC00, 0xC0C), (0xC0E, 0xC10), (0xC12, 0xC28), (0xC2A, 0xC39),
   (0xC3C, 0xC44), (0xC46, 0xC48), (0xC4A, 0xC4D), (0xC55, 0xC56), (0xC58, 0xC5A), (0xC5C, 0xC5D),
   (0xC60, 0xC63), (0xC66, 0xC6F), (0xC80, 0xC83), (0xC85, 0xC8C), (0xC8E, 0xC90), (0xC92, 0xCA8),
   (0xCAA, 0xCB3), (0xCB5, 0xCB9), (0xCBC, 0xCC4), (0xCC6, 0xCC8), (0xCCA, 0xCCD), (0xCD5, 0xCD6),
   (0xCDC, 0xCDE), (0xCE0, 0xCE3), (0xCE6, 0xCEF), (0xCF1, 0xCF3), (0xD00, 0xD0C), (0xD0E, 0xD10),
   (0xD12, 0xD44), (0xD46, 0xD48), (0xD4A, 0xD4E), (0xD54, 0xD57), (0xD5F, 0xD63), (0xD66, 0xD6F),
   (0xD7A, 0xD7F), (0xD81, 0xD83), (0xD85, 0xD96), (0xD9A, 0xDB1), (0xDB3, 0xDBB), (0xDBD, 0xDBD),
   (0xDC0, 0xDC6), (0xDCA, 0xDCA), (0xDCF, 0xDD4), (0xDD6, 0xDD6), (0xDD8, 0xDDF), (0xDE6, 0xDEF),
   (0xDF2, 0xDF3), (0xE01, 0xE3A), (0xE40, 0xE4E), (0xE50, 0xE59), (0xE81, 0xE82), (0xE84, 0xE84),
   (0xE86, 0xE8A), (0xE8C, 0xEA3), (0xEA5, 0xEA5), (0xEA7, 0xEBD), (0xEC0, 0xEC4), (0xEC6, 0xEC6),
   (0xEC8, 0xECE), (0xED0, 0xED9), (0xEDC, 0xEDF), (0xF00, 0xF00), (0xF18, 0xF19), (0xF20, 0xF29),
   (0xF35, 0xF35), (0xF37, 0xF37), (0xF39, 0xF39), (0xF3E, 0xF47), (0xF49, 0xF6C), (0xF71, 0xF84),
   (0xF86, 0xF97), (0xF99, 0xFBC), (0xFC6, 0xFC6), (0x1000, 0x1049), (0x1050, 0x109D),
   (0x10A0, 0x10C5), (0x10C7, 0x10C7), (0x10CD, 0x10CD), (0x10D0, 0x10FA), (0x10FC, 0x1248),
   (0x124A, 0x124D), (0x1250, 0x1256), (0x1258, 0x1258), (0x125A, 0x125D), (0x1260, 0x1288),
   (0x128A, 0x128D), (0x1290, 0x12B0), (0x12B2, 0x12B5), (0x12B8, 0x12BE), (0x12C0, 0x12C0),
   (0x12C2, 0x12C5), (0x12C8, 0x12D6), (0x12D8, 0x1310), (0x1312, 0x1315), (0x1318, 0x135A),
   (0x135D, 0x135F), (0x1380, 0x138F), (0x13A0, 0x13F5), (0x13F8, 0x13FD), (0x1401, 0x166C),
   (0x166F, 0x167F), (0x1681, 0x169A), (0x16A0, 0x16EA), (0x16EE, 0x16F8), (0x1700, 0x1715),
   (0x171F, 0x1734), (0x1740, 0x1753), (0x1760, 0x176C), (0x176E, 0x1770), (0x1772, 0x1773),
   (0x1780, 0x17D3), (0x17D7, 0x17D7), (0x17DC, 0x17DD), (0x17E0, 0x17E9), (0x180B, 0x180D),
   (0x180F, 0x1819), (0x1820, 0x1878), (0x1880, 0x18AA), (0x18B0, 0x18F5), (0x1900, 0x191E),
   (0x1920, 0x192B), (0x1930, 0x193B), (0x1946, 0x196D), (0x1970, 0x1974), (0x1980, 0x19AB),
   (0x19B0, 0x19C9), (0x19D0, 0x19D9), (0x1A00, 0x1A1B), (0x1A20, 0x1A5E), (0x1A60, 0x1A7C),
   (0x1A7F, 0x1A89), (0x1A90, 0x1A99), (0x1AA7, 0x1AA7), (0x1AB0, 0x1ADD), (0x1AE0, 0x1AEB),
   (0x1B00, 0x1B4C), (0x1B50, 0x1B59), (0x1B6B, 0x1B73), (0x1B80, 0x1BF3), (0x1C00, 0x1C37),
   (0x1C40, 0x1C49), (0x1C4D, 0x1C7D), (0x1C80, 0x1C8A), (0x1C90, 0x1CBA), (0x1CBD, 0x1CBF),
   (0x1CD0, 0x1CD2), (0x1CD4, 0x1CFA), (0x1D00, 0x1F15), (0x1F18, 0x1F1D), (0x1F20, 0x1F45),
   (0x1F48, 0x1F4D), (0x1F50, 0x1F57), (0x1F59, 0x1F59), (0x1F5B, 0x1F5B), (0x1F5D, 0x1F5D),
   (0x1F5F, 0x1F7D), (0x1F80, 0x1FB4), (0x1FB6, 0x1FBC), (0x1FBE, 0x1FBE), (0x1FC2, 0x1FC4),
   (0x1FC6, 0x1FCC), (0x1FD0, 0x1FD3), (0x1FD6, 0x1FDB), (0x1FE0, 0x1FEC), (0x1FF2, 0x1FF4),
   (0x1FF6, 0x1FFC), (0x200C, 0x200D), (0x203F, 0x2040), (0x2054, 0x2054), (0x2071, 0x2071),
   (0x207F, 0x207F), (0x2090, 0x209C), (0x20D0, 0x20F0), (0x2102, 0x2102), (0x2107, 0x2107),
   (0x210A, 0x2113), (0x2115, 0x2115), (0x2119, 0x211D), (0x2124, 0x2124), (0x2126, 0x2126),
   (0x2128, 0x2128), (0x212A, 0x212D), (0x212F, 0x2139), (0x213C, 0x213F), (0x2145, 0x2149),
   (0x214E, 0x214E), (0x2160, 0x2188), (0x24B6, 0x24E9), (0x2C00, 0x2CE4), (0x2CEB, 0x2CF3),
   (0x2D00, 0x2D25), (0x2D27, 0x2D27), (0x2D2D, 0x2D2D), (0x2D30, 0x2D67), (0x2D6F, 0x2D6F),
   (0x2D7F, 0x2D96), (0x2DA0, 0x2DA6), (0x2DA8, 0x2DAE), (0x2DB0, 0x2DB6), (0x2DB8, 0x2DBE),
   (0x2DC0, 0x2DC6), (0x2DC8, 0x2DCE), (0x2DD0, 0x2DD6), (0x2DD8, 0x2DDE), (0x2DE0, 0x2DFF),
   (0x2E2F, 0x2E2F), (0x3005, 0x3007), (0x3021, 0x302F), (0x3031, 0x3035), (0x3038, 0x303C),
   (0x3041, 0x3096), (0x3099, 0x309A), (0x309D, 0x309F), (0x30A1, 0x30FA), (0x30FC, 0x30FF),
   (0x3105, 0x312F), (0x3131, 0x318E), (0x31A0, 0x31BF), (0x31F0, 0x31FF), (0x3400, 0x4DBF),
   (0x4E00, 0xA48C), (0xA4D0, 0xA4FD), (0xA500, 0xA60C), (0xA610, 0xA62B), (0xA640, 0xA672),
   (0xA674, 0xA67D), (0xA67F, 0xA6F1), (0xA717, 0xA71F), (0xA722, 0xA788), (0xA78B, 0xA7DC),
   (0xA7F1, 0xA827), (0xA82C, 0xA82C), (0xA840, 0xA873), (0xA880, 0xA8C5), (0xA8D0, 0xA8D9),
   (0xA8E0, 0xA8F7), (0xA8FB, 0xA8FB), (0xA8FD, 0xA92D), (0xA930, 0xA953), (0xA960, 0xA97C),
   (0xA980, 0xA9C0), (0xA9CF, 0xA9D9), (0xA9E0, 0xA9FE), (0xAA00, 0xAA36), (0xAA40, 0xAA4D),
   (0xAA50, 0xAA59), (0xAA60, 0xAA76), (0xAA7A, 0xAAC2), (0xAADB, 0xAADD), (0xAAE0, 0xAAEF),
   (0xAAF2, 0xAAF6), (0xAB01, 0xAB06), (0xAB09, 0xAB0E), (0xAB11, 0xAB16), (0xAB20, 0xAB26),
   (0xAB28, 0xAB2E), (0xAB30, 0xAB5A), (0xAB5C, 0xAB69), (0xAB70, 0xABEA), (0xABEC, 0xABED),
   (0xABF0, 0xABF9), (0xAC00, 0xD7A3), (0xD7B0, 0xD7C6), (0xD7CB, 0xD7FB), (0xF900, 0xFA6D),
   (0xFA70, 0xFAD9), (0xFB00, 0xFB06), (0xFB13, 0xFB17), (0xFB1D, 0xFB28), (0xFB2A, 0xFB36),
   (0xFB38, 0xFB3C), (0xFB3E, 0xFB3E), (0xFB40, 0xFB41), (0xFB43, 0xFB44), (0xFB46, 0xFBB1),
   (0xFBD3, 0xFD3D), (0xFD50, 0xFD8F), (0xFD92, 0xFDC7), (0xFDF0, 0xFDFB), (0xFE00, 0xFE0F),
   (0xFE20, 0xFE2F), (0xFE33, 0xFE34), (0xFE4D, 0xFE4F), (0xFE70, 0xFE74), (0xFE76, 0xFEFC),
   (0xFF10, 0xFF19), (0xFF21, 0xFF3A), (0xFF3F, 0xFF3F), (0xFF41, 0xFF5A), (0xFF66, 0xFFBE),
   (0xFFC2, 0xFFC7), (0xFFCA, 0xFFCF), (0xFFD2, 0xFFD7), (0xFFDA, 0xFFDC), (0x10000, 0x1000B),
   (0x1000D, 0x10026), (0x10028, 0x1003A), (0x1003C, 0x1003D), (0x1003F, 0x1004D),
   (0x10050, 0x1005D), (0x10080, 0x100FA), (0x10140, 0x10174), (0x101FD, 0x101FD),
   (0x10280, 0x1029C), (0x102A0, 0x102D0), (0x102E0, 0x102E0), (0x10300, 0x1031F),
   (0x1032D, 0x1034A), (0x10350, 0x1037A), (0x10380, 0x1039D), (0x103A0, 0x103C3),
   (0x103C8, 0x103CF), (0x103D1, 0x103D5), (0x10400, 0x1049D), (0x104A0, 0x104A9),
   (0x104B0, 0x104D3), (0x104D8, 0x104FB), (0x10500, 0x10527), (0x10530, 0x10563),
   (0x10570, 0x1057A), (0x1057C, 0x1058A), (0x1058C, 0x10592), (0x10594, 0x10595),
   (0x10597, 0x105A1), (0x105A3, 0x105B1), (0x105B3, 0x105B9), (0x105BB, 0x105BC),
   (0x105C0, 0x105F3), (0x10600, 0x10736), (0x10740, 0x10755), (0x10760, 0x10767),
   (0x10780, 0x10785), (0x10787, 0x107B0), (0x107B2, 0x107BA), (0x10800, 0x10805),
   (0x10808, 0x10808), (0x1080A, 0x10835), (0x10837, 0x10838), (0x1083C, 0x1083C),
   (0x1083F, 0x10855), (0x10860, 0x10876), (0x10880, 0x1089E), (0x108E0, 0x108F2),
   (0x108F4, 0x108F5), (0x10900, 0x10915), (0x10920, 0x10939), (0x10940, 0x10959),
   (0x10980, 0x109B7), (0x109BE, 0x109BF), (0x10A00, 0x10A03), (0x10A05, 0x10A06),
   (0x10A0C, 0x10A13), (0x10A15, 0x10A17), (0x10A19, 0x10A35), (0x10A38, 0x10A3A),
   (0x10A3F, 0x10A3F), (0x10A60, 0x10A7C), (0x10A80, 0x10A9C), (0x10AC0, 0x10AC7),
   (0x10AC9, 0x10AE6), (0x10B00, 0x10B35), (0x10B40, 0x10B55), (0x10B60, 0x10B72),
   (0x10B80, 0x10B91), (0x10C00, 0x10C48), (0x10C80, 0x10CB2), (0x10CC0, 0x10CF2),
   (0x10D00, 0x10D27), (0x10D30, 0x10D39), (0x10D40, 0x10D65), (0x10D69, 0x10D6D),
   (0x10D6F, 0x10D85), (0x10E80, 0x10EA9), (0x10EAB, 0x10EAC), (0x10EB0, 0x10EB1),
   (0x10EC2, 0x10EC7), (0x10EFA, 0x10F1C), (0x10F27, 0x10F27), (0x10F30, 0x10F50),
   (0x10F70, 0x10F85), (0x10FB0, 0x10FC4), (0x10FE0, 0x10FF6), (0x11000, 0x11046),
   (0x11066, 0x11075), (0x1107F, 0x110BA), (0x110C2, 0x110C2), (0x110D0, 0x110E8),
   (0x110F0, 0x110F9), (0x11100, 0x11134), (0x11136, 0x1113F), (0x11144, 0x11147),
   (0x11150, 0x11173), (0x11176, 0x11176), (0x11180, 0x111C4), (0x111C9, 0x111CC),
   (0x111CE, 0x111DA), (0x111DC, 0x111DC), (0x11200, 0x11211), (0x11213, 0x11237),
   (0x1123E, 0x11241), (0x11280, 0x11286), (0x11288, 0x11288), (0x1128A, 0x1128D),
   (0x1128F, 0x1129D), (0x1129F, 0x112A8), (0x112B0, 0x112EA), (0x112F0, 0x112F9),
   (0x11300, 0x11303), (0x11305, 0x1130C), (0x1130F, 0x11310), (0x11313, 0x11328),
   (0x1132A, 0x11330), (0x11332, 0x11333), (0x11335, 0x11339), (0x1133B, 0x11344),
   (0x11347, 0x11348), (0x1134B, 0x1134D), (0x11350, 0x11350), (0x11357, 0x11357),
   (0x1135D, 0x11363), (0x11366, 0x1136C), (0x11370, 0x11374), (0x11380, 0x11389),
   (0x1138B, 0x1138B), (0x1138E, 0x1138E), (0x11390, 0x113B5), (0x113B7, 0x113C0),
   (0x113C2, 0x113C2), (0x113C5, 0x113C5), (0x113C7, 0x113CA), (0x113CC, 0x113D3),
   (0x113E1, 0x113E2), (0x11400, 0x1144A), (0x11450, 0x11459), (0x1145E, 0x11461),
   (0x11480, 0x114C5), (0x114C7, 0x114C7), (0x114D0, 0x114D9), (0x11580, 0x115B5),
   (0x115B8, 0x115C0), (0x115D8, 0x115DD), (0x11600, 0x11640), (0x11644, 0x11644),
   (0x11650, 0x11659), (0x11680, 0x116B8), (0x116C0, 0x116C9), (0x116D0, 0x116E3),
   (0x11700, 0x1171A), (0x1171D, 0x1172B), (0x11730, 0x11739), (0x11740, 0x11746),
   (0x11800, 0x1183A), (0x118A0, 0x118E9), (0x118FF, 0x11906), (0x11909, 0x11909),
   (0x1190C, 0x11913), (0x11915, 0x11916), (0x11918, 0x11935), (0x11937, 0x11938),
   (0x1193B, 0x11943), (0x11950, 0x11959), (0x119A0, 0x119A7), (0x119AA, 0x119D7),
   (0x119DA, 0x119E1), (0x119E3, 0x119E4), (0x11A00, 0x11A3E), (0x11A47, 0x11A47),
   (0x11A50, 0x11A99), (0x11A9D, 0x11A9D), (0x11AB0, 0x11AF8), (0x11B60, 0x11B67),
   (0x11BC0, 0x11BE0), (0x11BF0, 0x11BF9), (0x11C00, 0x11C08), (0x11C0A, 0x11C36),
   (0x11C38, 0x11C40), (0x11C50, 0x11C59), (0x11C72, 0x11C8F), (0x11C92, 0x11CA7),
   (0x11CA9, 0x11CB6), (0x11D00, 0x11D06), (0x11D08, 0x11D09), (0x11D0B, 0x11D36),
   (0x11D3A, 0x11D3A), (0x11D3C, 0x11D3D), (0x11D3F, 0x11D47), (0x11D50, 0x11D59),
   (0x11D60, 0x11D65), (0x11D67, 0x11D68), (0x11D6A, 0x11D8E), (0x11D90, 0x11D91),
   (0x11D93, 0x11D98), (0x11DA0, 0x11DA9), (0x11DB0, 0x11DDB), (0x11DE0, 0x11DE9),
   (0x11EE0, 0x11EF6), (0x11F00, 0x11F10), (0x11F12, 0x11F3A), (0x11F3E, 0x11F42),
   (0x11F50, 0x11F5A), (0x11FB0, 0x11FB0), (0x12000, 0x12399), (0x12400, 0x1246E),
   (0x12480, 0x12543), (0x12F90, 0x12FF0), (0x13000, 0x1342F), (0x13440, 0x13455),
   (0x13460, 0x143FA), (0x14400, 0x14646), (0x16100, 0x16139), (0x16800, 0x16A38),
   (0x16A40, 0x16A5E), (0x16A60, 0x16A69), (0x16A70, 0x16ABE), (0x16AC0, 0x16AC9),
   (0x16AD0, 0x16AED), (0x16AF0, 0x16AF4), (0x16B00, 0x16B36), (0x16B40, 0x16B43),
   (0x16B50, 0x16B59), (0x16B63, 0x16B77), (0x16B7D, 0x16B8F), (0x16D40, 0x16D6C),
   (0x16D70, 0x16D79), (0x16E40, 0x16E7F), (0x16EA0, 0x16EB8), (0x16EBB, 0x16ED3),
   (0x16F00, 0x16F4A), (0x16F4F, 0x16F87), (0x16F8F, 0x16F9F), (0x16FE0, 0x16FE1),
   (0x16FE3, 0x16FE4), (0x16FF0, 0x16FF6), (0x17000, 0x18CD5), (0x18CFF, 0x18D1E),
   (0x18D80, 0x18DF2), (0x1AFF0, 0x1AFF3), (0x1AFF5, 0x1AFFB), (0x1AFFD, 0x1AFFE),
   (0x1B000, 0x1B122), (0x1B132, 0x1B132), (0x1B150, 0x1B152), (0x1B155, 0x1B155),
   (0x1B164, 0x1B167), (0x1B170, 0x1B2FB), (0x1BC00, 0x1BC6A), (0x1BC70, 0x1BC7C),
   (0x1BC80, 0x1BC88), (0x1BC90, 0x1BC99), (0x1BC9D, 0x1BC9E), (0x1CCF0, 0x1CCF9),
   (0x1CF00, 0x1CF2D), (0x1CF30, 0x1CF46), (0x1D165, 0x1D169), (0x1D16D, 0x1D172),
   (0x1D17B, 0x1D182), (0x1D185, 0x1D18B), (0x1D1AA, 0x1D1AD), (0x1D242, 0x1D244),
   (0x1D400, 0x1D454), (0x1D456, 0x1D49C), (0x1D49E, 0x1D49F), (0x1D4A2, 0x1D4A2),
   (0x1D4A5, 0x1D4A6), (0x1D4A9, 0x1D4AC), (0x1D4AE, 0x1D4B9), (0x1D4BB, 0x1D4BB),
   (0x1D4BD, 0x1D4C3), (0x1D4C5, 0x1D505), (0x1D507, 0x1D50A), (0x1D50D, 0x1D514),
   (0x1D516, 0x1D51C), (0x1D51E, 0x1D539), (0x1D53B, 0x1D53E), (0x1D540, 0x1D544),
   (0x1D546, 0x1D546), (0x1D54A, 0x1D550), (0x1D552, 0x1D6A5), (0x1D6A8, 0x1D6C0),
   (0x1D6C2, 0x1D6DA), (0x1D6DC, 0x1D6FA), (0x1D6FC, 0x1D714), (0x1D716, 0x1D734),
   (0x1D736, 0x1D74E), (0x1D750, 0x1D76E), (0x1D770, 0x1D788), (0x1D78A, 0x1D7A8),
   (0x1D7AA, 0x1D7C2), (0x1D7C4, 0x1D7CB), (0x1D7CE, 0x1D7FF), (0x1DA00, 0x1DA36),
   (0x1DA3B, 0x1DA6C), (0x1DA75, 0x1DA75), (0x1DA84, 0x1DA84), (0x1DA9B, 0x1DA9F),
   (0x1DAA1, 0x1DAAF), (0x1DF00, 0x1DF1E), (0x1DF25, 0x1DF2A), (0x1E000, 0x1E006),
   (0x1E008, 0x1E018), (0x1E01B, 0x1E021), (0x1E023, 0x1E024), (0x1E026, 0x1E02A),
   (0x1E030, 0x1E06D), (0x1E08F, 0x1E08F), (0x1E100, 0x1E12C), (0x1E130, 0x1E13D),
   (0x1E140, 0x1E149), (0x1E14E, 0x1E14E), (0x1E290, 0x1E2AE), (0x1E2C0, 0x1E2F9),
   (0x1E4D0, 0x1E4F9), (0x1E5D0, 0x1E5FA), (0x1E6C0, 0x1E6DE), (0x1E6E0, 0x1E6F5),
   (0x1E6FE, 0x1E6FF), (0x1E7E0, 0x1E7E6), (0x1E7E8, 0x1E7EB), (0x1E7ED, 0x1E7EE),
   (0x1E7F0, 0x1E7FE), (0x1E800, 0x1E8C4), (0x1E8D0, 0x1E8D6), (0x1E900, 0x1E94B),
   (0x1E950, 0x1E959), (0x1EE00, 0x1EE03), (0x1EE05, 0x1EE1F), (0x1EE21, 0x1EE22),
   (0x1EE24, 0x1EE24), (0x1EE27, 0x1EE27), (0x1EE29, 0x1EE32), (0x1EE34, 0x1EE37),
   (0x1EE39, 0x1EE39), (0x1EE3B, 0x1EE3B), (0x1EE42, 0x1EE42), (0x1EE47, 0x1EE47),
   (0x1EE49, 0x1EE49), (0x1EE4B, 0x1EE4B), (0x1EE4D, 0x1EE4F), (0x1EE51, 0x1EE52),
   (0x1EE54, 0x1EE54), (0x1EE57, 0x1EE57), (0x1EE59, 0x1EE59), (0x1EE5B, 0x1EE5B),
   (0x1EE5D, 0x1EE5D), (0x1EE5F, 0x1EE5F), (0x1EE61, 0x1EE62), (0x1EE64, 0x1EE64),
   (0x1EE67, 0x1EE6A), (0x1EE6C, 0x1EE72), (0x1EE74, 0x1EE77), (0x1EE79, 0x1EE7C),
   (0x1EE7E, 0x1EE7E), (0x1EE80, 0x1EE89), (0x1EE8B, 0x1EE9B), (0x1EEA1, 0x1EEA3),
   (0x1EEA5, 0x1EEA9), (0x1EEAB, 0x1EEBB), (0x1F130, 0x1F149), (0x1F150, 0x1F169),
   (0x1F170, 0x1F189), (0x1FBF0, 0x1FBF9), (0x20000, 0x2A6DF), (0x2A700, 0x2B81D),
   (0x2B820, 0x2CEAD), (0x2CEB0, 0x2EBE0), (0x2EBF0, 0x2EE5D), (0x2F800, 0x2FA1D),
   (0x30000, 0x3134A), (0x31350, 0x33479), (0xE0100, 0xE01EF)]

/-- Decimal digits, general category Nd. -/
def digitRanges : List (Nat × Nat) :=
  [(0x660, 0x669), (0x6F0, 0x6F9), (0x7C0, 0x7C9), (0x966, 0x96F), (0x9E6, 0x9EF), (0xA66, 0xA6F),
   (0xAE6, 0xAEF), (0xB66, 0xB6F), (0xBE6, 0xBEF), (0xC66, 0xC6F), (0xCE6, 0xCEF), (0xD66, 0xD6F),
   (0xDE6, 0xDEF), (0xE50, 0xE59), (0xED0, 0xED9), (0xF20, 0xF29), (0x1040, 0x1049),
   (0x1090, 0x1099), (0x17E0, 0x17E9), (0x1810, 0x1819), (0x1946, 0x194F), (0x19D0, 0x19D9),
   (0x1A80, 0x1A89), (0x1A90, 0x1A99), (0x1B50, 0x1B59), (0x1BB0, 0x1BB9), (0x1C40, 0x1C49),
   (0x1C50, 0x1C59), (0xA620, 0xA629), (0xA8D0, 0xA8D9), (0xA900, 0xA909), (0xA9D0, 0xA9D9),
   (0xA9F0, 0xA9F9), (0xAA50, 0xAA59), (0xABF0, 0xABF9), (0xFF10, 0xFF19), (0x104A0, 0x104A9),
   (0x10D30, 0x10D39), (0x10D40, 0x10D49), (0x11066, 0x1106F), (0x110F0, 0x110F9),
   (0x11136, 0x1113F), (0x111D0, 0x111D9), (0x112F0, 0x112F9), (0x11450, 0x11459),
   (0x114D0, 0x114D9), (0x11650, 0x11659), (0x116C0, 0x116C9), (0x116D0, 0x116E3),
   (0x11730, 0x11739), (0x118E0, 0x118E9), (0x11950, 0x11959), (0x11BF0, 0x11BF9),
   (0x11C50, 0x11C59), (0x11D50, 0x11D59), (0x11DA0, 0x11DA9), (0x11DE0, 0x11DE9),
   (0x11F50, 0x11F59), (0x16130, 0x16139), (0x16A60, 0x16A69), (0x16AC0, 0x16AC9),
   (0x16B50, 0x16B59), (0x16D70, 0x16D79), (0x1CCF0, 0x1CCF9), (0x1D7CE, 0x1D7FF),
   (0x1E140, 0x1E149), (0x1E2F0, 0x1E2F9), (0x1E4F0, 0x1E4F9), (0x1E5F1, 0x1E5FA),
   (0x1E950, 0x1E959), (0x1FBF0, 0x1FBF9)]

/-- Characters that extend the grapheme before them, property Grapheme_Extend. -/
def graphemeExtendRanges : List (Nat × Nat) :=
  Text.Packed.pairs [
    "300 36F 483 489 591 5BD 5BF 5BF 5C1 5C2 5C4 5C5 5C7 5C7 610 61A 64B 65F 670 670 6D6 6DC",
    "6DF 6E4 6E7 6E8 6EA 6ED 711 711 730 74A 7A6 7B0 7EB 7F3 7FD 7FD 816 819 81B 823 825 827",
    "829 82D 859 85B 897 89F 8CA 8E1 8E3 902 93A 93A 93C 93C 941 948 94D 94D 951 957 962 963",
    "981 981 9BC 9BC 9BE 9BE 9C1 9C4 9CD 9CD 9D7 9D7 9E2 9E3 9FE 9FE A01 A02 A3C A3C A41 A42",
    "A47 A48 A4B A4D A51 A51 A70 A71 A75 A75 A81 A82 ABC ABC AC1 AC5 AC7 AC8 ACD ACD AE2 AE3",
    "AFA AFF B01 B01 B3C B3C B3E B3F B41 B44 B4D B4D B55 B57 B62 B63 B82 B82 BBE BBE BC0 BC0",
    "BCD BCD BD7 BD7 C00 C00 C04 C04 C3C C3C C3E C40 C46 C48 C4A C4D C55 C56 C62 C63 C81 C81",
    "CBC CBC CBF CC0 CC2 CC2 CC6 CC8 CCA CCD CD5 CD6 CE2 CE3 D00 D01 D3B D3C D3E D3E D41 D44",
    "D4D D4D D57 D57 D62 D63 D81 D81 DCA DCA DCF DCF DD2 DD4 DD6 DD6 DDF DDF E31 E31 E34 E3A",
    "E47 E4E EB1 EB1 EB4 EBC EC8 ECE F18 F19 F35 F35 F37 F37 F39 F39 F71 F7E F80 F84 F86 F87",
    "F8D F97 F99 FBC FC6 FC6 102D 1030 1032 1037 1039 103A 103D 103E 1058 1059 105E 1060 1071",
    "1074 1082 1082 1085 1086 108D 108D 109D 109D 135D 135F 1712 1715 1732 1734 1752 1753 1772",
    "1773 17B4 17B5 17B7 17BD 17C6 17C6 17C9 17D3 17DD 17DD 180B 180D 180F 180F 1885 1886 18A9",
    "18A9 1920 1922 1927 1928 1932 1932 1939 193B 1A17 1A18 1A1B 1A1B 1A56 1A56 1A58 1A5E 1A60",
    "1A60 1A62 1A62 1A65 1A6C 1A73 1A7C 1A7F 1A7F 1AB0 1ADD 1AE0 1AEB 1B00 1B03 1B34 1B3D 1B42",
    "1B44 1B6B 1B73 1B80 1B81 1BA2 1BA5 1BA8 1BAD 1BE6 1BE6 1BE8 1BE9 1BED 1BED 1BEF 1BF3 1C2C",
    "1C33 1C36 1C37 1CD0 1CD2 1CD4 1CE0 1CE2 1CE8 1CED 1CED 1CF4 1CF4 1CF8 1CF9 1DC0 1DFF 200C",
    "200C 20D0 20F0 2CEF 2CF1 2D7F 2D7F 2DE0 2DFF 302A 302F 3099 309A A66F A672 A674 A67D A69E",
    "A69F A6F0 A6F1 A802 A802 A806 A806 A80B A80B A825 A826 A82C A82C A8C4 A8C5 A8E0 A8F1 A8FF",
    "A8FF A926 A92D A947 A951 A953 A953 A980 A982 A9B3 A9B3 A9B6 A9B9 A9BC A9BD A9C0 A9C0 A9E5",
    "A9E5 AA29 AA2E AA31 AA32 AA35 AA36 AA43 AA43 AA4C AA4C AA7C AA7C AAB0 AAB0 AAB2 AAB4 AAB7",
    "AAB8 AABE AABF AAC1 AAC1 AAEC AAED AAF6 AAF6 ABE5 ABE5 ABE8 ABE8 ABED ABED FB1E FB1E FE00",
    "FE0F FE20 FE2F FF9E FF9F 101FD 101FD 102E0 102E0 10376 1037A 10A01 10A03 10A05 10A06 10A0C",
    "10A0F 10A38 10A3A 10A3F 10A3F 10AE5 10AE6 10D24 10D27 10D69 10D6D 10EAB 10EAC 10EFA 10EFF",
    "10F46 10F50 10F82 10F85 11001 11001 11038 11046 11070 11070 11073 11074 1107F 11081 110B3",
    "110B6 110B9 110BA 110C2 110C2 11100 11102 11127 1112B 1112D 11134 11173 11173 11180 11181",
    "111B6 111BE 111C0 111C0 111C9 111CC 111CF 111CF 1122F 11231 11234 11237 1123E 1123E 11241",
    "11241 112DF 112DF 112E3 112EA 11300 11301 1133B 1133C 1133E 1133E 11340 11340 1134D 1134D",
    "11357 11357 11366 1136C 11370 11374 113B8 113B8 113BB 113C0 113C2 113C2 113C5 113C5 113C7",
    "113C9 113CE 113D0 113D2 113D2 113E1 113E2 11438 1143F 11442 11444 11446 11446 1145E 1145E",
    "114B0 114B0 114B3 114B8 114BA 114BA 114BD 114BD 114BF 114C0 114C2 114C3 115AF 115AF 115B2",
    "115B5 115BC 115BD 115BF 115C0 115DC 115DD 11633 1163A 1163D 1163D 1163F 11640 116AB 116AB",
    "116AD 116AD 116B0 116B7 1171D 1171D 1171F 1171F 11722 11725 11727 1172B 1182F 11837 11839",
    "1183A 11930 11930 1193B 1193E 11943 11943 119D4 119D7 119DA 119DB 119E0 119E0 11A01 11A0A",
    "11A33 11A38 11A3B 11A3E 11A47 11A47 11A51 11A56 11A59 11A5B 11A8A 11A96 11A98 11A99 11B60",
    "11B60 11B62 11B64 11B66 11B66 11C30 11C36 11C38 11C3D 11C3F 11C3F 11C92 11CA7 11CAA 11CB0",
    "11CB2 11CB3 11CB5 11CB6 11D31 11D36 11D3A 11D3A 11D3C 11D3D 11D3F 11D45 11D47 11D47 11D90",
    "11D91 11D95 11D95 11D97 11D97 11EF3 11EF4 11F00 11F01 11F36 11F3A 11F40 11F42 11F5A 11F5A",
    "13440 13440 13447 13455 1611E 16129 1612D 1612F 16AF0 16AF4 16B30 16B36 16F4F 16F4F 16F8F",
    "16F92 16FE4 16FE4 16FF0 16FF1 1BC9D 1BC9E 1CF00 1CF2D 1CF30 1CF46 1D165 1D169 1D16D 1D172",
    "1D17B 1D182 1D185 1D18B 1D1AA 1D1AD 1D242 1D244 1DA00 1DA36 1DA3B 1DA6C 1DA75 1DA75 1DA84",
    "1DA84 1DA9B 1DA9F 1DAA1 1DAAF 1E000 1E006 1E008 1E018 1E01B 1E021 1E023 1E024 1E026 1E02A",
    "1E08F 1E08F 1E130 1E136 1E2AE 1E2AE 1E2EC 1E2EF 1E4EC 1E4EF 1E5EE 1E5EF 1E6E3 1E6E3 1E6E6",
    "1E6E6 1E6EE 1E6EF 1E6F5 1E6F5 1E8D0 1E8D6 1E944 1E94A E0020 E007F E0100 E01EF"]

/-- Controls, format characters, separators and code points without a character. -/
def unprintableRanges : List (Nat × Nat) :=
  Text.Packed.pairs [
    "80 A0 AD AD 378 379 380 383 38B 38B 38D 38D 3A2 3A2 530 530 557 558 58B 58C 590 590 5C8",
    "5CF 5EB 5EE 5F5 605 61C 61C 6DD 6DD 70E 70F 74B 74C 7B2 7BF 7FB 7FC 82E 82F 83F 83F 85C",
    "85D 85F 85F 86B 86F 890 896 8E2 8E2 984 984 98D 98E 991 992 9A9 9A9 9B1 9B1 9B3 9B5 9BA",
    "9BB 9C5 9C6 9C9 9CA 9CF 9D6 9D8 9DB 9DE 9DE 9E4 9E5 9FF A00 A04 A04 A0B A0E A11 A12 A29",
    "A29 A31 A31 A34 A34 A37 A37 A3A A3B A3D A3D A43 A46 A49 A4A A4E A50 A52 A58 A5D A5D A5F",
    "A65 A77 A80 A84 A84 A8E A8E A92 A92 AA9 AA9 AB1 AB1 AB4 AB4 ABA ABB AC6 AC6 ACA ACA ACE",
    "ACF AD1 ADF AE4 AE5 AF2 AF8 B00 B00 B04 B04 B0D B0E B11 B12 B29 B29 B31 B31 B34 B34 B3A",
    "B3B B45 B46 B49 B4A B4E B54 B58 B5B B5E B5E B64 B65 B78 B81 B84 B84 B8B B8D B91 B91 B96",
    "B98 B9B B9B B9D B9D BA0 BA2 BA5 BA7 BAB BAD BBA BBD BC3 BC5 BC9 BC9 BCE BCF BD1 BD6 BD8",
    "BE5 BFB BFF C0D C0D C11 C11 C29 C29 C3A C3B C45 C45 C49 C49 C4E C54 C57 C57 C5B C5B C5E",
    "C5F C64 C65 C70 C76 C8D C8D C91 C91 CA9 CA9 CB4 CB4 CBA CBB CC5 CC5 CC9 CC9 CCE CD4 CD7",
    "CDB CDF CDF CE4 CE5 CF0 CF0 CF4 CFF D0D D0D D11 D11 D45 D45 D49 D49 D50 D53 D64 D65 D80",
    "D80 D84 D84 D97 D99 DB2 DB2 DBC DBC DBE DBF DC7 DC9 DCB DCE DD5 DD5 DD7 DD7 DE0 DE5 DF0",
    "DF1 DF5 E00 E3B E3E E5C E80 E83 E83 E85 E85 E8B E8B EA4 EA4 EA6 EA6 EBE EBF EC5 EC5 EC7",
    "EC7 ECF ECF EDA EDB EE0 EFF F48 F48 F6D F70 F98 F98 FBD FBD FCD FCD FDB FFF 10C6 10C6 10C8",
    "10CC 10CE 10CF 1249 1249 124E 124F 1257 1257 1259 1259 125E 125F 1289 1289 128E 128F 12B1",
    "12B1 12B6 12B7 12BF 12BF 12C1 12C1 12C6 12C7 12D7 12D7 1311 1311 1316 1317 135B 135C 137D",
    "137F 139A 139F 13F6 13F7 13FE 13FF 1680 1680 169D 169F 16F9 16FF 1716 171E 1737 173F 1754",
    "175F 176D 176D 1771 1771 1774 177F 17DE 17DF 17EA 17EF 17FA 17FF 180E 180E 181A 181F 1879",
    "187F 18AB 18AF 18F6 18FF 191F 191F 192C 192F 193C 193F 1941 1943 196E 196F 1975 197F 19AC",
    "19AF 19CA 19CF 19DB 19DD 1A1C 1A1D 1A5F 1A5F 1A7D 1A7E 1A8A 1A8F 1A9A 1A9F 1AAE 1AAF 1ADE",
    "1ADF 1AEC 1AFF 1B4D 1B4D 1BF4 1BFB 1C38 1C3A 1C4A 1C4C 1C8B 1C8F 1CBB 1CBC 1CC8 1CCF 1CFB",
    "1CFF 1F16 1F17 1F1E 1F1F 1F46 1F47 1F4E 1F4F 1F58 1F58 1F5A 1F5A 1F5C 1F5C 1F5E 1F5E 1F7E",
    "1F7F 1FB5 1FB5 1FC5 1FC5 1FD4 1FD5 1FDC 1FDC 1FF0 1FF1 1FF5 1FF5 1FFF 200F 2028 202F 205F",
    "206F 2072 2073 208F 208F 209D 209F 20C2 20CF 20F1 20FF 218C 218F 242A 243F 244B 245F 2B74",
    "2B75 2CF4 2CF8 2D26 2D26 2D28 2D2C 2D2E 2D2F 2D68 2D6E 2D71 2D7E 2D97 2D9F 2DA7 2DA7 2DAF",
    "2DAF 2DB7 2DB7 2DBF 2DBF 2DC7 2DC7 2DCF 2DCF 2DD7 2DD7 2DDF 2DDF 2E5E 2E7F 2E9A 2E9A 2EF4",
    "2EFF 2FD6 2FEF 3000 3000 3040 3040 3097 3098 3100 3104 3130 3130 318F 318F 31E6 31EE 321F",
    "321F A48D A48F A4C7 A4CF A62C A63F A6F8 A6FF A7DD A7F0 A82D A82F A83A A83F A878 A87F A8C6",
    "A8CD A8DA A8DF A954 A95E A97D A97F A9CE A9CE A9DA A9DD A9FF A9FF AA37 AA3F AA4E AA4F AA5A",
    "AA5B AAC3 AADA AAF7 AB00 AB07 AB08 AB0F AB10 AB17 AB1F AB27 AB27 AB2F AB2F AB6C AB6F ABEE",
    "ABEF ABFA ABFF D7A4 D7AF D7C7 D7CA D7FC D7FF E000 F8FF FA6E FA6F FADA FAFF FB07 FB12 FB18",
    "FB1C FB37 FB37 FB3D FB3D FB3F FB3F FB42 FB42 FB45 FB45 FDD0 FDEF FE1A FE1F FE53 FE53 FE67",
    "FE67 FE6C FE6F FE75 FE75 FEFD FF00 FFBF FFC1 FFC8 FFC9 FFD0 FFD1 FFD8 FFD9 FFDD FFDF FFE7",
    "FFE7 FFEF FFFB FFFE FFFF 1000C 1000C 10027 10027 1003B 1003B 1003E 1003E 1004E 1004F 1005E",
    "1007F 100FB 100FF 10103 10106 10134 10136 1018F 1018F 1019D 1019F 101A1 101CF 101FE 1027F",
    "1029D 1029F 102D1 102DF 102FC 102FF 10324 1032C 1034B 1034F 1037B 1037F 1039E 1039E 103C4",
    "103C7 103D6 103FF 1049E 1049F 104AA 104AF 104D4 104D7 104FC 104FF 10528 1052F 10564 1056E",
    "1057B 1057B 1058B 1058B 10593 10593 10596 10596 105A2 105A2 105B2 105B2 105BA 105BA 105BD",
    "105BF 105F4 105FF 10737 1073F 10756 1075F 10768 1077F 10786 10786 107B1 107B1 107BB 107FF",
    "10806 10807 10809 10809 10836 10836 10839 1083B 1083D 1083E 10856 10856 1089F 108A6 108B0",
    "108DF 108F3 108F3 108F6 108FA 1091C 1091E 1093A 1093E 1095A 1097F 109B8 109BB 109D0 109D1",
    "10A04 10A04 10A07 10A0B 10A14 10A14 10A18 10A18 10A36 10A37 10A3B 10A3E 10A49 10A4F 10A59",
    "10A5F 10AA0 10ABF 10AE7 10AEA 10AF7 10AFF 10B36 10B38 10B56 10B57 10B73 10B77 10B92 10B98",
    "10B9D 10BA8 10BB0 10BFF 10C49 10C7F 10CB3 10CBF 10CF3 10CF9 10D28 10D2F 10D3A 10D3F 10D66",
    "10D68 10D86 10D8D 10D90 10E5F 10E7F 10E7F 10EAA 10EAA 10EAE 10EAF 10EB2 10EC1 10EC8 10ECF",
    "10ED9 10EF9 10F28 10F2F 10F5A 10F6F 10F8A 10FAF 10FCC 10FDF 10FF7 10FFF 1104E 11051 11076",
    "1107E 110BD 110BD 110C3 110CF 110E9 110EF 110FA 110FF 11135 11135 11148 1114F 11177 1117F",
    "111E0 111E0 111F5 111FF 11212 11212 11242 1127F 11287 11287 11289 11289 1128E 1128E 1129E",
    "1129E 112AA 112AF 112EB 112EF 112FA 112FF 11304 11304 1130D 1130E 11311 11312 11329 11329",
    "11331 11331 11334 11334 1133A 1133A 11345 11346 11349 1134A 1134E 1134F 11351 11356 11358",
    "1135C 11364 11365 1136D 1136F 11375 1137F 1138A 1138A 1138C 1138D 1138F 1138F 113B6 113B6",
    "113C1 113C1 113C3 113C4 113C6 113C6 113CB 113CB 113D6 113D6 113D9 113E0 113E3 113FF 1145C",
    "1145C 11462 1147F 114C8 114CF 114DA 1157F 115B6 115B7 115DE 115FF 11645 1164F 1165A 1165F",
    "1166D 1167F 116BA 116BF 116CA 116CF 116E4 116FF 1171B 1171C 1172C 1172F 11747 117FF 1183C",
    "1189F 118F3 118FE 11907 11908 1190A 1190B 11914 11914 11917 11917 11936 11936 11939 1193A",
    "11947 1194F 1195A 1199F 119A8 119A9 119D8 119D9 119E5 119FF 11A48 11A4F 11AA3 11AAF 11AF9",
    "11AFF 11B0A 11B5F 11B68 11BBF 11BE2 11BEF 11BFA 11BFF 11C09 11C09 11C37 11C37 11C46 11C4F",
    "11C6D 11C6F 11C90 11C91 11CA8 11CA8 11CB7 11CFF 11D07 11D07 11D0A 11D0A 11D37 11D39 11D3B",
    "11D3B 11D3E 11D3E 11D48 11D4F 11D5A 11D5F 11D66 11D66 11D69 11D69 11D8F 11D8F 11D92 11D92",
    "11D99 11D9F 11DAA 11DAF 11DDC 11DDF 11DEA 11EDF 11EF9 11EFF 11F11 11F11 11F3B 11F3D 11F5B",
    "11FAF 11FB1 11FBF 11FF2 11FFE 1239A 123FF 1246F 1246F 12475 1247F 12544 12F8F 12FF3 12FFF",
    "13430 1343F 13456 1345F 143FB 143FF 14647 160FF 1613A 167FF 16A39 16A3F 16A5F 16A5F 16A6A",
    "16A6D 16ABF 16ABF 16ACA 16ACF 16AEE 16AEF 16AF6 16AFF 16B46 16B4F 16B5A 16B5A 16B62 16B62",
    "16B78 16B7C 16B90 16D3F 16D7A 16E3F 16E9B 16E9F 16EB9 16EBA 16ED4 16EFF 16F4B 16F4E 16F88",
    "16F8E 16FA0 16FDF 16FE5 16FEF 16FF7 16FFF 18CD6 18CFE 18D1F 18D7F 18DF3 1AFEF 1AFF4 1AFF4",
    "1AFFC 1AFFC 1AFFF 1AFFF 1B123 1B131 1B133 1B14F 1B153 1B154 1B156 1B163 1B168 1B16F 1B2FC",
    "1BBFF 1BC6B 1BC6F 1BC7D 1BC7F 1BC89 1BC8F 1BC9A 1BC9B 1BCA0 1CBFF 1CCFD 1CCFF 1CEB4 1CEB9",
    "1CED1 1CEDF 1CEF1 1CEFF 1CF2E 1CF2F 1CF47 1CF4F 1CFC4 1CFFF 1D0F6 1D0FF 1D127 1D128 1D173",
    "1D17A 1D1EB 1D1FF 1D246 1D2BF 1D2D4 1D2DF 1D2F4 1D2FF 1D357 1D35F 1D379 1D3FF 1D455 1D455",
    "1D49D 1D49D 1D4A0 1D4A1 1D4A3 1D4A4 1D4A7 1D4A8 1D4AD 1D4AD 1D4BA 1D4BA 1D4BC 1D4BC 1D4C4",
    "1D4C4 1D506 1D506 1D50B 1D50C 1D515 1D515 1D51D 1D51D 1D53A 1D53A 1D53F 1D53F 1D545 1D545",
    "1D547 1D549 1D551 1D551 1D6A6 1D6A7 1D7CC 1D7CD 1DA8C 1DA9A 1DAA0 1DAA0 1DAB0 1DEFF 1DF1F",
    "1DF24 1DF2B 1DFFF 1E007 1E007 1E019 1E01A 1E022 1E022 1E025 1E025 1E02B 1E02F 1E06E 1E08E",
    "1E090 1E0FF 1E12D 1E12F 1E13E 1E13F 1E14A 1E14D 1E150 1E28F 1E2AF 1E2BF 1E2FA 1E2FE 1E300",
    "1E4CF 1E4FA 1E5CF 1E5FB 1E5FE 1E600 1E6BF 1E6DF 1E6DF 1E6F6 1E6FD 1E700 1E7DF 1E7E7 1E7E7",
    "1E7EC 1E7EC 1E7EF 1E7EF 1E7FF 1E7FF 1E8C5 1E8C6 1E8D7 1E8FF 1E94C 1E94F 1E95A 1E95D 1E960",
    "1EC70 1ECB5 1ED00 1ED3E 1EDFF 1EE04 1EE04 1EE20 1EE20 1EE23 1EE23 1EE25 1EE26 1EE28 1EE28",
    "1EE33 1EE33 1EE38 1EE38 1EE3A 1EE3A 1EE3C 1EE41 1EE43 1EE46 1EE48 1EE48 1EE4A 1EE4A 1EE4C",
    "1EE4C 1EE50 1EE50 1EE53 1EE53 1EE55 1EE56 1EE58 1EE58 1EE5A 1EE5A 1EE5C 1EE5C 1EE5E 1EE5E",
    "1EE60 1EE60 1EE63 1EE63 1EE65 1EE66 1EE6B 1EE6B 1EE73 1EE73 1EE78 1EE78 1EE7D 1EE7D 1EE7F",
    "1EE7F 1EE8A 1EE8A 1EE9C 1EEA0 1EEA4 1EEA4 1EEAA 1EEAA 1EEBC 1EEEF 1EEF2 1EFFF 1F02C 1F02F",
    "1F094 1F09F 1F0AF 1F0B0 1F0C0 1F0C0 1F0D0 1F0D0 1F0F6 1F0FF 1F1AE 1F1E5 1F203 1F20F 1F23C",
    "1F23F 1F249 1F24F 1F252 1F25F 1F266 1F2FF 1F6D9 1F6DB 1F6ED 1F6EF 1F6FD 1F6FF 1F7DA 1F7DF",
    "1F7EC 1F7EF 1F7F1 1F7FF 1F80C 1F80F 1F848 1F84F 1F85A 1F85F 1F888 1F88F 1F8AE 1F8AF 1F8BC",
    "1F8BF 1F8C2 1F8CF 1F8D9 1F8FF 1FA58 1FA5F 1FA6E 1FA6F 1FA7D 1FA7F 1FA8B 1FA8D 1FAC7 1FAC7",
    "1FAC9 1FACC 1FADD 1FADE 1FAEB 1FAEE 1FAF9 1FAFF 1FB93 1FB93 1FBFB 1FFFF 2A6E0 2A6FF 2B81E",
    "2B81F 2CEAE 2CEAF 2EBE1 2EBEF 2EE5E 2F7FF 2FA1E 2FFFF 3134B 3134F 3347A E00FF E01F0 10FFFF"]

end ProxyHistory.Text.CharClass
