/-!
# Characters of domain names and what they stand for

Data on how characters beyond ASCII are mapped before a domain name is encoded: as arithmetic runs, and one by one.
-/

namespace SchemaRelay.Url.Idna

/-- Runs of code points with one partner each: first, last, step, and the partner of the first. -/
def mappedRuns : List (Nat × Nat × Nat × Nat) :=
  [(0xB2, 0xB3, 1, 0x32), (0xC0, 0xD6, 1, 0xE0), (0xD8, 0xDE, 1, 0xF8), (0x100, 0x12E, 2, 0x101),
   (0x134, 0x136, 2, 0x135), (0x139, 0x13D, 2, 0x13A), (0x141, 0x147, 2, 0x142), (0x14A, 0x176, 2, 0x14B),
   (0x179, 0x17D, 2, 0x17A), (0x182, 0x184, 2, 0x183), (0x189, 0x18A, 1, 0x256), (0x1A0, 0x1A4, 2, 0x1A1),
   (0x1B1, 0x1B2, 1, 0x28A), (0x1B3, 0x1B5, 2, 0x1B4), (0x1CD, 0x1DB, 2, 0x1CE), (0x1DE, 0x1EE, 2, 0x1DF),
   (0x1F8, 0x21E, 2, 0x1F9), (0x222, 0x232, 2, 0x223), (0x246, 0x24E, 2, 0x247), (0x340, 0x341, 1, 0x300),
   (0x370, 0x372, 2, 0x371), (0x388, 0x38A, 1, 0x3AD), (0x38E, 0x38F, 1, 0x3CD), (0x391, 0x3A1, 1, 0x3B1),
   (0x3A3, 0x3AB, 1, 0x3C3), (0x3D8, 0x3EE, 2, 0x3D9), (0x3FD, 0x3FF, 1, 0x37B), (0x400, 0x40F, 1, 0x450),
   (0x410, 0x42F, 1, 0x430), (0x460, 0x480, 2, 0x461), (0x48A, 0x4BE, 2, 0x48B), (0x4C1, 0x4CD, 2, 0x4C2),
   (0x4D0, 0x52E, 2, 0x4D1), (0x531, 0x556, 1, 0x561), (0x10A0, 0x10C5, 1, 0x2D00), (0x13F8, 0x13FD, 1, 0x13F0),
   (0x1C83, 0x1C84, 1, 0x441), (0x1C90, 0x1CBA, 1, 0x10D0), (0x1CBD, 0x1CBF, 1, 0x10FD), (0x1D2E, 0x1D30, 2, 0x62),
   (0x1D33, 0x1D3A, 1, 0x67), (0x1D40, 0x1D41, 1, 0x74), (0x1D44, 0x1D45, 1, 0x250), (0x1D48, 0x1D49, 1, 0x64),
   (0x1D4B, 0x1D4C, 1, 0x25B), (0x1D54, 0x1D55, 1, 0x1D16), (0x1D57, 0x1D58, 1, 0x74), (0x1D5D, 0x1D5F, 1, 0x3B2),
   (0x1D60, 0x1D61, 1, 0x3C6), (0x1D64, 0x1D65, 1, 0x75), (0x1D66, 0x1D67, 1, 0x3B2), (0x1D69, 0x1D6A, 1, 0x3C6),
   (0x1DA4, 0x1DA6, 1, 0x268), (0x1DAE, 0x1DB1, 1, 0x272), (0x1DB3, 0x1DB4, 1, 0x282), (0x1DB6, 0x1DB7, 1, 0x289),
   (0x1DB9, 0x1DBA, 1, 0x28B), (0x1DBC, 0x1DBE, 1, 0x290), (0x1E00, 0x1E94, 2, 0x1E01), (0x1EA0, 0x1EFE, 2, 0x1EA1),
   (0x1F08, 0x1F0F, 1, 0x1F00), (0x1F18, 0x1F1D, 1, 0x1F10), (0x1F28, 0x1F2F, 1, 0x1F20), (0x1F38, 0x1F3F, 1, 0x1F30),
   (0x1F48, 0x1F4D, 1, 0x1F40), (0x1F59, 0x1F5F, 2, 0x1F51), (0x1F68, 0x1F6F, 1, 0x1F60), (0x1FB8, 0x1FB9, 1, 0x1FB0),
   (0x1FD8, 0x1FD9, 1, 0x1FD0), (0x1FE8, 0x1FE9, 1, 0x1FE0), (0x2074, 0x2079, 1, 0x34), (0x207D, 0x207E, 1, 0x28),
   (0x2080, 0x2089, 1, 0x30), (0x208D, 0x208E, 1, 0x28), (0x2096, 0x2099, 1, 0x6B), (0x209B, 0x209C, 1, 0x73),
   (0x210A, 0x210B, 1, 0x67), (0x2113, 0x2115, 2, 0x6C), (0x2119, 0x211B, 1, 0x70), (0x212C, 0x212D, 1, 0x62),
   (0x2130, 0x2131, 1, 0x65), (0x2135, 0x2138, 1, 0x5D0), (0x2146, 0x2147, 1, 0x64), (0x2148, 0x2149, 1, 0x69),
   (0x216D, 0x216E, 1, 0x63), (0x217D, 0x217E, 1, 0x63), (0x2329, 0x232A, 1, 0x3008), (0x2460, 0x2468, 1, 0x31),
   (0x24B6, 0x24CF, 1, 0x61), (0x24D0, 0x24E9, 1, 0x61), (0x2C00, 0x2C2F, 1, 0x2C30), (0x2C67, 0x2C6B, 2, 0x2C68),
   (0x2C7E, 0x2C7F, 1, 0x23F), (0x2C80, 0x2CE2, 2, 0x2C81), (0x2CEB, 0x2CED, 2, 0x2CEC), (0x3039, 0x303A, 1, 0x5344),
   (0x3131, 0x3132, 1, 0x1100), (0x3135, 0x3136, 1, 0x11AC), (0x3137, 0x3139, 1, 0x1103), (0x313A, 0x313F, 1, 0x11B0),
   (0x3141, 0x3143, 1, 0x1106), (0x3145, 0x314E, 1, 0x1109), (0x314F, 0x3163, 1, 0x1161), (0x3165, 0x3166, 1, 0x1114),
   (0x3167, 0x3168, 1, 0x11C7), (0x3171, 0x3172, 1, 0x111D), (0x3174, 0x3175, 1, 0x1122), (0x3178, 0x317C, 1, 0x112B),
   (0x3182, 0x3183, 1, 0x11F1), (0x3184, 0x3186, 1, 0x1157), (0x3187, 0x3188, 1, 0x1184), (0x318A, 0x318B, 1, 0x1191),
   (0x3261, 0x3262, 1, 0x1102), (0x3263, 0x3265, 1, 0x1105), (0x3267, 0x3268, 1, 0x110B), (0x3269, 0x326D, 1, 0x110E),
   (0x32D4, 0x32D5, 1, 0x30AA), (0x32E4, 0x32E9, 1, 0x30CA), (0x32EE, 0x32F2, 1, 0x30DE), (0x32F5, 0x32FA, 1, 0x30E8),
   (0x32FB, 0x32FE, 1, 0x30EF), (0xA640, 0xA66C, 2, 0xA641), (0xA680, 0xA69A, 2, 0xA681), (0xA722, 0xA72E, 2, 0xA723),
   (0xA732, 0xA76E, 2, 0xA733), (0xA779, 0xA77B, 2, 0xA77A), (0xA77E, 0xA786, 2, 0xA77F), (0xA790, 0xA792, 2, 0xA791),
   (0xA796, 0xA7A8, 2, 0xA797), (0xA7B4, 0xA7C2, 2, 0xA7B5), (0xA7C7, 0xA7C9, 2, 0xA7C8), (0xA7CC, 0xA7DA, 2, 0xA7CD),
   (0xAB70, 0xABBF, 1, 0x13A0), (0xFA52, 0xFA53, 1, 0x798D), (0xFB22, 0xFB23, 1, 0x5D3), (0xFB24, 0xFB26, 1, 0x5DB),
   (0xFB7D, 0xFB7E, 1, 0x686), (0xFB9F, 0xFBA0, 1, 0x6BA), (0xFBA5, 0xFBA6, 1, 0x6C0), (0xFBAF, 0xFBB0, 1, 0x6D2),
   (0xFE13, 0xFE14, 1, 0x3A), (0xFE17, 0xFE18, 1, 0x3016), (0xFE35, 0xFE36, 1, 0x28), (0xFE39, 0xFE3A, 1, 0x3014),
   (0xFE3B, 0xFE3C, 1, 0x3010), (0xFE3D, 0xFE3E, 1, 0x300A), (0xFE3F, 0xFE40, 1, 0x3008), (0xFE41, 0xFE44, 1, 0x300C),
   (0xFE59, 0xFE5A, 1, 0x28), (0xFE5D, 0xFE5E, 1, 0x3014), (0xFE61, 0xFE62, 1, 0x2A), (0xFE69, 0xFE6A, 1, 0x24),
   (0xFE80, 0xFE81, 1, 0x621), (0xFE82, 0xFE83, 1, 0x622), (0xFE84, 0xFE85, 1, 0x623), (0xFE86, 0xFE87, 1, 0x624),
   (0xFE88, 0xFE89, 1, 0x625), (0xFE8C, 0xFE8D, 1, 0x626), (0xFE8E, 0xFE8F, 1, 0x627), (0xFE92, 0xFE93, 1, 0x628),
   (0xFE94, 0xFE95, 1, 0x629), (0xFE98, 0xFE99, 1, 0x62A), (0xFE9C, 0xFE9D, 1, 0x62B), (0xFEA0, 0xFEA1, 1, 0x62C),
   (0xFEA4, 0xFEA5, 1, 0x62D), (0xFEA8, 0xFEA9, 1, 0x62E), (0xFEAA, 0xFEAB, 1, 0x62F), (0xFEAC, 0xFEAD, 1, 0x630),
   (0xFEAE, 0xFEAF, 1, 0x631), (0xFEB0, 0xFEB1, 1, 0x632), (0xFEB4, 0xFEB5, 1, 0x633), (0xFEB8, 0xFEB9, 1, 0x634),
   (0xFEBC, 0xFEBD, 1, 0x635), (0xFEC0, 0xFEC1, 1, 0x636), (0xFEC4, 0xFEC5, 1, 0x637), (0xFEC8, 0xFEC9, 1, 0x638),
   (0xFECC, 0xFECD, 1, 0x639), (0xFED4, 0xFED5, 1, 0x641), (0xFED8, 0xFED9, 1, 0x642), (0xFEDC, 0xFEDD, 1, 0x643),
   (0xFEE0, 0xFEE1, 1, 0x644), (0xFEE4, 0xFEE5, 1, 0x645), (0xFEE8, 0xFEE9, 1, 0x646), (0xFEEC, 0xFEED, 1, 0x647),
   (0xFEEE, 0xFEEF, 1, 0x648), (0xFEF0, 0xFEF1, 1, 0x649), (0xFF01, 0xFF20, 1, 0x21), (0xFF21, 0xFF3A, 1, 0x61),
   (0xFF3B, 0xFF5E, 1, 0x5B), (0xFF5F, 0xFF60, 1, 0x2985), (0xFF62, 0xFF63, 1, 0x300C), (0xFF75, 0xFF76, 1, 0x30AA),
   (0xFF85, 0xFF8A, 1, 0x30CA), (0xFF8F, 0xFF93, 1, 0x30DE), (0xFF96, 0xFF9B, 1, 0x30E8), (0xFF9E, 0xFF9F, 1, 0x3099),
   (0xFFA1, 0xFFA2, 1, 0x1100), (0xFFA5, 0xFFA6, 1, 0x11AC), (0xFFA7, 0xFFA9, 1, 0x1103), (0xFFAA, 0xFFAF, 1, 0x11B0),
   (0xFFB1, 0xFFB3, 1, 0x1106), (0xFFB5, 0xFFBE, 1, 0x1109), (0xFFC2, 0xFFC7, 1, 0x1161), (0xFFCA, 0xFFCF, 1, 0x1167),
   (0xFFD2, 0xFFD7, 1, 0x116D), (0xFFDA, 0xFFDC, 1, 0x1173), (0xFFE0, 0xFFE1, 1, 0xA2), (0xFFE9, 0xFFEC, 1, 0x2190),
   (0x10400, 0x10427, 1, 0x10428), (0x104B0, 0x104D3, 1, 0x104D8), (0x10570, 0x1057A, 1, 0x10597),
   (0x1057C, 0x1058A, 1, 0x105A3), (0x1058C, 0x10592, 1, 0x105B3), (0x10594, 0x10595, 1, 0x105BB),
   (0x10781, 0x10782, 1, 0x2D0), (0x1078B, 0x1078C, 1, 0x256), (0x10799, 0x1079A, 1, 0x2AA),
   (0x107A3, 0x107A4, 1, 0x276), (0x107A8, 0x107A9, 1, 0x27D), (0x107B3, 0x107B4, 1, 0x2A1),
   (0x107B6, 0x107B8, 1, 0x1C0), (0x10C80, 0x10CB2, 1, 0x10CC0), (0x10D50, 0x10D65, 1, 0x10D70),
   (0x118A0, 0x118BF, 1, 0x118C0), (0x16E40, 0x16E5F, 1, 0x16E60), (0x16EA0, 0x16EB8, 1, 0x16EBB),
   (0x1CCD6, 0x1CCEF, 1, 0x61), (0x1CCF0, 0x1CCF9, 1, 0x30), (0x1D400, 0x1D419, 1, 0x61), (0x1D41A, 0x1D433, 1, 0x61),
   (0x1D434, 0x1D44D, 1, 0x61), (0x1D44E, 0x1D454, 1, 0x61), (0x1D456, 0x1D467, 1, 0x69), (0x1D468, 0x1D481, 1, 0x61),
   (0x1D482, 0x1D49B, 1, 0x61), (0x1D49C, 0x1D49E, 2, 0x61), (0x1D4A5, 0x1D4A6, 1, 0x6A), (0x1D4A9, 0x1D4AC, 1, 0x6E),
   (0x1D4AE, 0x1D4B5, 1, 0x73), (0x1D4B6, 0x1D4B9, 1, 0x61), (0x1D4BB, 0x1D4BD, 2, 0x66), (0x1D4BE, 0x1D4C3, 1, 0x69),
   (0x1D4C5, 0x1D4CF, 1, 0x70), (0x1D4D0, 0x1D4E9, 1, 0x61), (0x1D4EA, 0x1D503, 1, 0x61), (0x1D504, 0x1D505, 1, 0x61),
   (0x1D507, 0x1D50A, 1, 0x64), (0x1D50D, 0x1D514, 1, 0x6A), (0x1D516, 0x1D51C, 1, 0x73), (0x1D51E, 0x1D537, 1, 0x61),
   (0x1D538, 0x1D539, 1, 0x61), (0x1D53B, 0x1D53E, 1, 0x64), (0x1D540, 0x1D544, 1, 0x69), (0x1D54A, 0x1D550, 1, 0x73),
   (0x1D552, 0x1D56B, 1, 0x61), (0x1D56C, 0x1D585, 1, 0x61), (0x1D586, 0x1D59F, 1, 0x61), (0x1D5A0, 0x1D5B9, 1, 0x61),
   (0x1D5BA, 0x1D5D3, 1, 0x61), (0x1D5D4, 0x1D5ED, 1, 0x61), (0x1D5EE, 0x1D607, 1, 0x61), (0x1D608, 0x1D621, 1, 0x61),
   (0x1D622, 0x1D63B, 1, 0x61), (0x1D63C, 0x1D655, 1, 0x61), (0x1D656, 0x1D66F, 1, 0x61), (0x1D670, 0x1D689, 1, 0x61),
   (0x1D68A, 0x1D6A3, 1, 0x61), (0x1D6A8, 0x1D6B8, 1, 0x3B1), (0x1D6BA, 0x1D6C0, 1, 0x3C3),
   (0x1D6C2, 0x1D6D2, 1, 0x3B1), (0x1D6D4, 0x1D6DA, 1, 0x3C3), (0x1D6E2, 0x1D6F2, 1, 0x3B1),
   (0x1D6F4, 0x1D6FA, 1, 0x3C3), (0x1D6FC, 0x1D70C, 1, 0x3B1), (0x1D70E, 0x1D714, 1, 0x3C3),
   (0x1D71C, 0x1D72C, 1, 0x3B1), (0x1D72E, 0x1D734, 1, 0x3C3), (0x1D736, 0x1D746, 1, 0x3B1),
   (0x1D748, 0x1D74E, 1, 0x3C3), (0x1D756, 0x1D766, 1, 0x3B1), (0x1D768, 0x1D76E, 1, 0x3C3),
   (0x1D770, 0x1D780, 1, 0x3B1), (0x1D782, 0x1D788, 1, 0x3C3), (0x1D790, 0x1D7A0, 1, 0x3B1),
   (0x1D7A2, 0x1D7A8, 1, 0x3C3), (0x1D7AA, 0x1D7BA, 1, 0x3B1), (0x1D7BC, 0x1D7C2, 1, 0x3C3),
   (0x1D7CE, 0x1D7D7, 1, 0x30), (0x1D7D8, 0x1D7E1, 1, 0x30), (0x1D7E2, 0x1D7EB, 1, 0x30), (0x1D7EC, 0x1D7F5, 1, 0x30),
   (0x1D7F6, 0x1D7FF, 1, 0x30), (0x1E030, 0x1E038, 1, 0x430), (0x1E039, 0x1E03B, 1, 0x43A),
   (0x1E03C, 0x1E046, 1, 0x43E), (0x1E048, 0x1E049, 1, 0x44D), (0x1E051, 0x1E059, 1, 0x430),
   (0x1E05A, 0x1E05B, 1, 0x43A), (0x1E05C, 0x1E05D, 1, 0x43E), (0x1E05F, 0x1E064, 1, 0x443),
   (0x1E065, 0x1E066, 1, 0x44A), (0x1E900, 0x1E921, 1, 0x1E922), (0x1EE00, 0x1EE01, 1, 0x627),
   (0x1EE0A, 0x1EE0D, 1, 0x643), (0x1EE15, 0x1EE16, 1, 0x62A), (0x1EE2A, 0x1EE2D, 1, 0x643),
   (0x1EE35, 0x1EE36, 1, 0x62A), (0x1EE4B, 0x1EE4D, 2, 0x644), (0x1EE6A, 0x1EE6C, 2, 0x643),
   (0x1EE75, 0x1EE76, 1, 0x62A), (0x1EE80, 0x1EE81, 1, 0x627), (0x1EE84, 0x1EE85, 1, 0x647),
   (0x1EE8B, 0x1EE8D, 1, 0x644), (0x1EE95, 0x1EE96, 1, 0x62A), (0x1EEAB, 0x1EEAD, 1, 0x644),
   (0x1EEB5, 0x1EEB6, 1, 0x62A), (0x1F130, 0x1F149, 1, 0x61), (0x1FBF0, 0x1FBF9, 1, 0x30),
   (0x2F829, 0x2F82A, 1, 0x5305), (0x2F881, 0x2F882, 1, 0x5DE1), (0x2F8F5, 0x2F8F6, 1, 0x6BBA),
   (0x2F945, 0x2F946, 1, 0x771E), (0x2F9E8, 0x2F9E9, 1, 0x92D7)]

/-- Entries of a character and the text it stands for, each closed by a bar. -/
def mappedTexts : List String :=
  ["\u00a0 |\u00a8 \u0308|ªa|\u00af \u0304|\u00b4 \u0301|µμ|\u00b8 \u0327|\u00b91|ºo|\u00bc1\u20444|",
   "\u00bd1\u20442|\u00be3\u20444|İi\u0307|Ĳij|ĳij|Ŀl\u00b7|ŀl\u00b7|ŉʼn|Ÿÿ|ſs|Ɓɓ|Ɔɔ|Ƈƈ|Ƌƌ|Ǝǝ|Əə|Ɛɛ|Ƒƒ|Ɠɠ|Ɣɣ|Ɩɩ|",
   "Ɨɨ|Ƙƙ|Ɯɯ|Ɲɲ|Ɵɵ|Ʀʀ|Ƨƨ|Ʃʃ|Ƭƭ|Ʈʈ|Ưư|Ʒʒ|Ƹƹ|Ƽƽ|Ǆdž|ǅdž|ǆdž|Ǉlj|ǈlj|ǉlj|Ǌnj|ǋnj|ǌnj|Ǳdz|ǲdz|ǳdz|Ǵǵ|Ƕƕ|Ƿƿ|Ƞƞ|Ⱥⱥ|Ȼȼ|",
   "Ƚƚ|Ⱦⱦ|Ɂɂ|Ƀƀ|Ʉʉ|Ʌʌ|ʰh|ʱɦ|ʲj|ʳr|ʴɹ|ʵɻ|ʶʁ|ʷw|ʸy|\u02d8 \u0306|\u02d9 \u0307|\u02da \u030a|\u02db \u0328|",
   "\u02dc \u0303|\u02dd \u030b|ˠɣ|ˡl|ˢs|ˣx|ˤʕ|\u0343\u0313|\u0344\u0308\u0301|\u0345ι|ʹʹ|Ͷͷ|ͺ ι|\u037e;|Ϳϳ|",
   "\u0384 \u0301|\u0385 \u0308\u0301|Άά|\u0387\u00b7|Όό|Ϗϗ|ϐβ|ϑθ|ϒυ|ϓύ|ϔϋ|ϕφ|ϖπ|ϰκ|ϱρ|ϲσ|ϴθ|ϵε|Ϸϸ|Ϲσ|Ϻϻ|Ӏӏ|ևեւ|",
   "\u0675\u0627\u0674|\u0676\u0648\u0674|\u0677\u06c7\u0674|\u0678\u064a\u0674|क़क\u093c|ख़ख\u093c|ग़ग\u093c|",
   "ज़ज\u093c|ड़ड\u093c|ढ़ढ\u093c|फ़फ\u093c|य़य\u093c|ড়ড\u09bc|ঢ়ঢ\u09bc|য়য\u09bc|ਲ਼ਲ\u0a3c|ਸ਼ਸ\u0a3c|ਖ਼ਖ\u0a3c|ਗ਼ਗ\u0a3c|",
   "ਜ਼ਜ\u0a3c|ਫ਼ਫ\u0a3c|ଡ଼ଡ\u0b3c|ଢ଼ଢ\u0b3c|ำ\u0e4dา|ຳ\u0ecdາ|ໜຫນ|ໝຫມ|\u0f0c\u0f0b|གྷག\u0fb7|ཌྷཌ\u0fb7|དྷད\u0fb7|",
   "བྷབ\u0fb7|ཛྷཛ\u0fb7|ཀྵཀ\u0fb5|\u0f73\u0f71\u0f72|\u0f75\u0f71\u0f74|\u0f76\u0fb2\u0f80|",
   "\u0f77\u0fb2\u0f71\u0f80|\u0f78\u0fb3\u0f80|\u0f79\u0fb3\u0f71\u0f80|\u0f81\u0f71\u0f80|\u0f93\u0f92\u0fb7|",
   "\u0f9d\u0f9c\u0fb7|\u0fa2\u0fa1\u0fb7|\u0fa7\u0fa6\u0fb7|\u0fac\u0fab\u0fb7|\u0fb9\u0f90\u0fb5|Ⴧⴧ|Ⴭⴭ|ჼნ|ᲀв|",
   "ᲁд|ᲂо|ᲅт|ᲆъ|ᲇѣ|ᲈꙋ|\u1c89\u1c8a|ᴬa|ᴭæ|ᴱe|ᴲǝ|ᴼo|ᴽȣ|ᴾp|ᴿr|ᵂw|ᵃa|ᵆᴂ|ᵇb|ᵊə|ᵍg|ᵏk|ᵐm|ᵑŋ|ᵒo|ᵓɔ|ᵖp|ᵙᴝ|ᵚɯ|ᵛv|ᵜᴥ|ᵢi|",
   "ᵣr|ᵨρ|ᵸн|ᶛɒ|ᶜc|ᶝɕ|ᶞð|ᶟɜ|ᶠf|ᶡɟ|ᶢɡ|ᶣɥ|ᶧᵻ|ᶨʝ|ᶩɭ|ᶪᶅ|ᶫʟ|ᶬɱ|ᶭɰ|ᶲɸ|ᶵƫ|ᶸᴜ|ᶻz|ᶿθ|ẚaʾ|ẛṡ|ẞß|άά|έέ|ήή|ίί|όό|ύύ|ώώ|ᾀἀι|",
   "ᾁἁι|ᾂἂι|ᾃἃι|ᾄἄι|ᾅἅι|ᾆἆι|ᾇἇι|ᾈἀι|ᾉἁι|ᾊἂι|ᾋἃι|ᾌἄι|ᾍἅι|ᾎἆι|ᾏἇι|ᾐἠι|ᾑἡι|ᾒἢι|ᾓἣι|ᾔἤι|ᾕἥι|ᾖἦι|ᾗἧι|ᾘἠι|ᾙἡι|ᾚἢι|ᾛἣι|",
   "ᾜἤι|ᾝἥι|ᾞἦι|ᾟἧι|ᾠὠι|ᾡὡι|ᾢὢι|ᾣὣι|ᾤὤι|ᾥὥι|ᾦὦι|ᾧὧι|ᾨὠι|ᾩὡι|ᾪὢι|ᾫὣι|ᾬὤι|ᾭὥι|ᾮὦι|ᾯὧι|ᾲὰι|ᾳαι|ᾴάι|ᾷᾶι|Ὰὰ|Άά|ᾼαι|",
   "\u1fbd \u0313|ιι|\u1fbf \u0313|\u1fc0 \u0342|\u1fc1 \u0308\u0342|ῂὴι|ῃηι|ῄήι|ῇῆι|Ὲὲ|Έέ|Ὴὴ|Ήή|ῌηι|",
   "\u1fcd \u0313\u0300|\u1fce \u0313\u0301|\u1fcf \u0313\u0342|ΐΐ|Ὶὶ|Ίί|\u1fdd \u0314\u0300|",
   "\u1fde \u0314\u0301|\u1fdf \u0314\u0342|ΰΰ|Ὺὺ|Ύύ|Ῥῥ|\u1fed \u0308\u0300|\u1fee \u0308\u0301|\u1fef`|ῲὼι|ῳωι|",
   "ῴώι|ῷῶι|Ὸὸ|Όό|Ὼὼ|Ώώ|ῼωι|\u1ffd \u0301|\u1ffe \u0314|\u2000 |\u2001 |\u2002 |\u2003 |\u2004 |\u2005 |\u2006 |",
   "\u2007 |\u2008 |\u2009 |\u200a |\u2011\u2010|\u2017 \u0333|\u202f |\u2033\u2032\u2032|",
   "\u2034\u2032\u2032\u2032|\u2036\u2035\u2035|\u2037\u2035\u2035\u2035|\u203c!!|\u203e \u0305|\u2047??|",
   "\u2048?!|\u2049!?|\u2057\u2032\u2032\u2032\u2032|\u205f |\u20700|ⁱi|\u207a+|\u207b\u2212|\u207c=|ⁿn|\u208a+|",
   "\u208b\u2212|\u208c=|ₐa|ₑe|ₒo|ₓx|ₔə|ₕh|ₚp|\u20a8rs|\u2100a/c|\u2101a/s|ℂc|\u2103\u00b0c|\u2105c/o|\u2106c/u|",
   "ℇɛ|\u2109\u00b0f|ℌh|ℍh|ℎh|ℏħ|ℐi|ℑi|ℒl|\u2116no|ℜr|ℝr|\u2120sm|\u2121tel|\u2122tm|ℤz|Ωω|ℨz|Kk|Åå|ℯe|Ⅎⅎ|ℳm|ℴo|",
   "ℹi|\u213bfax|ℼπ|ℽγ|ℾγ|ℿπ|\u2140\u2211|ⅅd|\u21501\u20447|\u21511\u20449|\u21521\u204410|\u21531\u20443|",
   "\u21542\u20443|\u21551\u20445|\u21562\u20445|\u21573\u20445|\u21584\u20445|\u21591\u20446|\u215a5\u20446|",
   "\u215b1\u20448|\u215c3\u20448|\u215d5\u20448|\u215e7\u20448|\u215f1\u2044|\u2160i|\u2161ii|\u2162iii|",
   "\u2163iv|\u2164v|\u2165vi|\u2166vii|\u2167viii|\u2168ix|\u2169x|\u216axi|\u216bxii|\u216cl|\u216fm|\u2170i|",
   "\u2171ii|\u2172iii|\u2173iv|\u2174v|\u2175vi|\u2176vii|\u2177viii|\u2178ix|\u2179x|\u217axi|\u217bxii|",
   "\u217cl|\u217fm|Ↄↄ|\u21890\u20443|\u222c\u222b\u222b|\u222d\u222b\u222b\u222b|\u222f\u222e\u222e|",
   "\u2230\u222e\u222e\u222e|\u246910|\u246a11|\u246b12|\u246c13|\u246d14|\u246e15|\u246f16|\u247017|\u247118|",
   "\u247219|\u247320|\u2474(1)|\u2475(2)|\u2476(3)|\u2477(4)|\u2478(5)|\u2479(6)|\u247a(7)|\u247b(8)|\u247c(9)|",
   "\u247d(10)|\u247e(11)|\u247f(12)|\u2480(13)|\u2481(14)|\u2482(15)|\u2483(16)|\u2484(17)|\u2485(18)|",
   "\u2486(19)|\u2487(20)|\u249c(a)|\u249d(b)|\u249e(c)|\u249f(d)|\u24a0(e)|\u24a1(f)|\u24a2(g)|\u24a3(h)|",
   "\u24a4(i)|\u24a5(j)|\u24a6(k)|\u24a7(l)|\u24a8(m)|\u24a9(n)|\u24aa(o)|\u24ab(p)|\u24ac(q)|\u24ad(r)|",
   "\u24ae(s)|\u24af(t)|\u24b0(u)|\u24b1(v)|\u24b2(w)|\u24b3(x)|\u24b4(y)|\u24b5(z)|\u24ea0|",
   "\u2a0c\u222b\u222b\u222b\u222b|\u2a74::=|\u2a75==|\u2a76===|\u2adc\u2add\u0338|Ⱡⱡ|Ɫɫ|Ᵽᵽ|Ɽɽ|Ɑɑ|Ɱɱ|Ɐɐ|Ɒɒ|Ⱳⱳ|",
   "Ⱶⱶ|ⱼj|ⱽv|Ⳳⳳ|ⵯⵡ|\u2e9f母|\u2ef3龟|\u2f00一|\u2f01丨|\u2f02丶|\u2f03丿|\u2f04乙|\u2f05亅|\u2f06二|\u2f07亠|",
   "\u2f08人|\u2f09儿|\u2f0a入|\u2f0b八|\u2f0c冂|\u2f0d冖|\u2f0e冫|\u2f0f几|\u2f10凵|\u2f11刀|\u2f12力|\u2f13勹|",
   "\u2f14匕|\u2f15匚|\u2f16匸|\u2f17十|\u2f18卜|\u2f19卩|\u2f1a厂|\u2f1b厶|\u2f1c又|\u2f1d口|\u2f1e囗|\u2f1f土|",
   "\u2f20士|\u2f21夂|\u2f22夊|\u2f23夕|\u2f24大|\u2f25女|\u2f26子|\u2f27宀|\u2f28寸|\u2f29小|\u2f2a尢|\u2f2b尸|",
   "\u2f2c屮|\u2f2d山|\u2f2e巛|\u2f2f工|\u2f30己|\u2f31巾|\u2f32干|\u2f33幺|\u2f34广|\u2f35廴|\u2f36廾|\u2f37弋|",
   "\u2f38弓|\u2f39彐|\u2f3a彡|\u2f3b彳|\u2f3c心|\u2f3d戈|\u2f3e戶|\u2f3f手|\u2f40支|\u2f41攴|\u2f42文|\u2f43斗|",
   "\u2f44斤|\u2f45方|\u2f46无|\u2f47日|\u2f48曰|\u2f49月|\u2f4a木|\u2f4b欠|\u2f4c止|\u2f4d歹|\u2f4e殳|\u2f4f毋|",
   "\u2f50比|\u2f51毛|\u2f52氏|\u2f53气|\u2f54水|\u2f55火|\u2f56爪|\u2f57父|\u2f58爻|\u2f59爿|\u2f5a片|\u2f5b牙|",
   "\u2f5c牛|\u2f5d犬|\u2f5e玄|\u2f5f玉|\u2f60瓜|\u2f61瓦|\u2f62甘|\u2f63生|\u2f64用|\u2f65田|\u2f66疋|\u2f67疒|",
   "\u2f68癶|\u2f69白|\u2f6a皮|\u2f6b皿|\u2f6c目|\u2f6d矛|\u2f6e矢|\u2f6f石|\u2f70示|\u2f71禸|\u2f72禾|\u2f73穴|",
   "\u2f74立|\u2f75竹|\u2f76米|\u2f77糸|\u2f78缶|\u2f79网|\u2f7a羊|\u2f7b羽|\u2f7c老|\u2f7d而|\u2f7e耒|\u2f7f耳|",
   "\u2f80聿|\u2f81肉|\u2f82臣|\u2f83自|\u2f84至|\u2f85臼|\u2f86舌|\u2f87舛|\u2f88舟|\u2f89艮|\u2f8a色|\u2f8b艸|",
   "\u2f8c虍|\u2f8d虫|\u2f8e血|\u2f8f行|\u2f90衣|\u2f91襾|\u2f92見|\u2f93角|\u2f94言|\u2f95谷|\u2f96豆|\u2f97豕|",
   "\u2f98豸|\u2f99貝|\u2f9a赤|\u2f9b走|\u2f9c足|\u2f9d身|\u2f9e車|\u2f9f辛|\u2fa0辰|\u2fa1辵|\u2fa2邑|\u2fa3酉|",
   "\u2fa4釆|\u2fa5里|\u2fa6金|\u2fa7長|\u2fa8門|\u2fa9阜|\u2faa隶|\u2fab隹|\u2fac雨|\u2fad靑|\u2fae非|\u2faf面|",
   "\u2fb0革|\u2fb1韋|\u2fb2韭|\u2fb3音|\u2fb4頁|\u2fb5風|\u2fb6飛|\u2fb7食|\u2fb8首|\u2fb9香|\u2fba馬|\u2fbb骨|",
   "\u2fbc高|\u2fbd髟|\u2fbe鬥|\u2fbf鬯|\u2fc0鬲|\u2fc1鬼|\u2fc2魚|\u2fc3鳥|\u2fc4鹵|\u2fc5鹿|\u2fc6麥|\u2fc7麻|",
   "\u2fc8黃|\u2fc9黍|\u2fca黑|\u2fcb黹|\u2fcc黽|\u2fcd鼎|\u2fce鼓|\u2fcf鼠|\u2fd0鼻|\u2fd1齊|\u2fd2齒|\u2fd3龍|",
   "\u2fd4龜|\u2fd5龠|\u3000 |\u3002.|\u3036\u3012|\u3038十|\u309b \u3099|\u309c \u309a|ゟより|ヿコト|ㄳᆪ|ㄴᄂ|",
   "ㅀᄚ|ㅄᄡ|ㅩᇌ|ㅪᇎ|ㅫᇓ|ㅬᇗ|ㅭᇙ|ㅮᄜ|ㅯᇝ|ㅰᇟ|ㅳᄠ|ㅶᄧ|ㅷᄩ|ㅽᄲ|ㅾᄶ|ㅿᅀ|ㆀᅇ|ㆁᅌ|ㆉᆈ|ㆌᆔ|ㆍᆞ|ㆎᆡ|\u3192一|",
   "\u3193二|\u3194三|\u3195四|\u3196上|\u3197中|\u3198下|\u3199甲|\u319a乙|\u319b丙|\u319c丁|\u319d天|\u319e地|",
   "\u319f人|\u3200(ᄀ)|\u3201(ᄂ)|\u3202(ᄃ)|\u3203(ᄅ)|\u3204(ᄆ)|\u3205(ᄇ)|\u3206(ᄉ)|\u3207(ᄋ)|\u3208(ᄌ)|",
   "\u3209(ᄎ)|\u320a(ᄏ)|\u320b(ᄐ)|\u320c(ᄑ)|\u320d(ᄒ)|\u320e(가)|\u320f(나)|\u3210(다)|\u3211(라)|",
   "\u3212(마)|\u3213(바)|\u3214(사)|\u3215(아)|\u3216(자)|\u3217(차)|\u3218(카)|\u3219(타)|\u321a(파)|",
   "\u321b(하)|\u321c(주)|\u321d(오전)|\u321e(오후)|\u3220(一)|\u3221(二)|\u3222(三)|\u3223(四)|\u3224(五)|",
   "\u3225(六)|\u3226(七)|\u3227(八)|\u3228(九)|\u3229(十)|\u322a(月)|\u322b(火)|\u322c(水)|\u322d(木)|",
   "\u322e(金)|\u322f(土)|\u3230(日)|\u3231(株)|\u3232(有)|\u3233(社)|\u3234(名)|\u3235(特)|\u3236(財)|",
   "\u3237(祝)|\u3238(労)|\u3239(代)|\u323a(呼)|\u323b(学)|\u323c(監)|\u323d(企)|\u323e(資)|\u323f(協)|",
   "\u3240(祭)|\u3241(休)|\u3242(自)|\u3243(至)|\u3244問|\u3245幼|\u3246文|\u3247箏|\u3250pte|\u325121|\u325222|",
   "\u325323|\u325424|\u325525|\u325626|\u325727|\u325828|\u325929|\u325a30|\u325b31|\u325c32|\u325d33|\u325e34|",
   "\u325f35|\u3260ᄀ|\u3266ᄉ|\u326e가|\u326f나|\u3270다|\u3271라|\u3272마|\u3273바|\u3274사|\u3275아|\u3276자|",
   "\u3277차|\u3278카|\u3279타|\u327a파|\u327b하|\u327c참고|\u327d주의|\u327e우|\u3280一|\u3281二|\u3282三|",
   "\u3283四|\u3284五|\u3285六|\u3286七|\u3287八|\u3288九|\u3289十|\u328a月|\u328b火|\u328c水|\u328d木|\u328e金|",
   "\u328f土|\u3290日|\u3291株|\u3292有|\u3293社|\u3294名|\u3295特|\u3296財|\u3297祝|\u3298労|\u3299秘|\u329a男|",
   "\u329b女|\u329c適|\u329d優|\u329e印|\u329f注|\u32a0項|\u32a1休|\u32a2写|\u32a3正|\u32a4上|\u32a5中|\u32a6下|",
   "\u32a7左|\u32a8右|\u32a9医|\u32aa宗|\u32ab学|\u32ac監|\u32ad企|\u32ae資|\u32af協|\u32b0夜|\u32b136|\u32b237|",
   "\u32b338|\u32b439|\u32b540|\u32b641|\u32b742|\u32b843|\u32b944|\u32ba45|\u32bb46|\u32bc47|\u32bd48|\u32be49|",
   "\u32bf50|\u32c01月|\u32c12月|\u32c23月|\u32c34月|\u32c45月|\u32c56月|\u32c67月|\u32c78月|\u32c89月|",
   "\u32c910月|\u32ca11月|\u32cb12月|\u32cchg|\u32cderg|\u32ceev|\u32cfltd|\u32d0ア|\u32d1イ|\u32d2ウ|\u32d3エ|",
   "\u32d6キ|\u32d7ク|\u32d8ケ|\u32d9コ|\u32daサ|\u32dbシ|\u32dcス|\u32ddセ|\u32deソ|\u32dfタ|\u32e0チ|\u32e1ツ|",
   "\u32e2テ|\u32e3ト|\u32eaヒ|\u32ebフ|\u32ecヘ|\u32edホ|\u32f3ヤ|\u32f4ユ|\u32ff令和|\u3300アパート|",
   "\u3301アルファ|\u3302アンペア|\u3303アール|\u3304イニング|\u3305インチ|\u3306ウォン|\u3307エスクード|",
   "\u3308エーカー|\u3309オンス|\u330aオーム|\u330bカイリ|\u330cカラット|\u330dカロリー|\u330eガロン|",
   "\u330fガンマ|\u3310ギガ|\u3311ギニー|\u3312キュリー|\u3313ギルダー|\u3314キロ|\u3315キログラム|",
   "\u3316キロメートル|\u3317キロワット|\u3318グラム|\u3319グラムトン|\u331aクルゼイロ|\u331bクローネ|",
   "\u331cケース|\u331dコルナ|\u331eコーポ|\u331fサイクル|\u3320サンチーム|\u3321シリング|\u3322センチ|",
   "\u3323セント|\u3324ダース|\u3325デシ|\u3326ドル|\u3327トン|\u3328ナノ|\u3329ノット|\u332aハイツ|",
   "\u332bパーセント|\u332cパーツ|\u332dバーレル|\u332eピアストル|\u332fピクル|\u3330ピコ|\u3331ビル|",
   "\u3332ファラッド|\u3333フィート|\u3334ブッシェル|\u3335フラン|\u3336ヘクタール|\u3337ペソ|\u3338ペニヒ|",
   "\u3339ヘルツ|\u333aペンス|\u333bページ|\u333cベータ|\u333dポイント|\u333eボルト|\u333fホン|\u3340ポンド|",
   "\u3341ホール|\u3342ホーン|\u3343マイクロ|\u3344マイル|\u3345マッハ|\u3346マルク|\u3347マンション|",
   "\u3348ミクロン|\u3349ミリ|\u334aミリバール|\u334bメガ|\u334cメガトン|\u334dメートル|\u334eヤード|",
   "\u334fヤール|\u3350ユアン|\u3351リットル|\u3352リラ|\u3353ルピー|\u3354ルーブル|\u3355レム|\u3356レントゲン|",
   "\u3357ワット|\u33580点|\u33591点|\u335a2点|\u335b3点|\u335c4点|\u335d5点|\u335e6点|\u335f7点|\u33608点|",
   "\u33619点|\u336210点|\u336311点|\u336412点|\u336513点|\u336614点|\u336715点|\u336816点|\u336917点|",
   "\u336a18点|\u336b19点|\u336c20点|\u336d21点|\u336e22点|\u336f23点|\u337024点|\u3371hpa|\u3372da|\u3373au|",
   "\u3374bar|\u3375ov|\u3376pc|\u3377dm|\u3378dm2|\u3379dm3|\u337aiu|\u337b平成|\u337c昭和|\u337d大正|",
   "\u337e明治|\u337f株式会社|\u3380pa|\u3381na|\u3382μa|\u3383ma|\u3384ka|\u3385kb|\u3386mb|\u3387gb|\u3388cal|",
   "\u3389kcal|\u338apf|\u338bnf|\u338cμf|\u338dμg|\u338emg|\u338fkg|\u3390hz|\u3391khz|\u3392mhz|\u3393ghz|",
   "\u3394thz|\u3395μl|\u3396ml|\u3397dl|\u3398kl|\u3399fm|\u339anm|\u339bμm|\u339cmm|\u339dcm|\u339ekm|",
   "\u339fmm2|\u33a0cm2|\u33a1m2|\u33a2km2|\u33a3mm3|\u33a4cm3|\u33a5m3|\u33a6km3|\u33a7m\u2215s|",
   "\u33a8m\u2215s2|\u33a9pa|\u33aakpa|\u33abmpa|\u33acgpa|\u33adrad|\u33aerad\u2215s|\u33afrad\u2215s2|",
   "\u33b0ps|\u33b1ns|\u33b2μs|\u33b3ms|\u33b4pv|\u33b5nv|\u33b6μv|\u33b7mv|\u33b8kv|\u33b9mv|\u33bapw|\u33bbnw|",
   "\u33bcμw|\u33bdmw|\u33bekw|\u33bfmw|\u33c0kω|\u33c1mω|\u33c3bq|\u33c4cc|\u33c5cd|\u33c6c\u2215kg|\u33c8db|",
   "\u33c9gy|\u33caha|\u33cbhp|\u33ccin|\u33cdkk|\u33cekm|\u33cfkt|\u33d0lm|\u33d1ln|\u33d2log|\u33d3lx|",
   "\u33d4mb|\u33d5mil|\u33d6mol|\u33d7ph|\u33d9ppm|\u33dapr|\u33dbsr|\u33dcsv|\u33ddwb|\u33dev\u2215m|",
   "\u33dfa\u2215m|\u33e01日|\u33e12日|\u33e23日|\u33e34日|\u33e45日|\u33e56日|\u33e67日|\u33e78日|\u33e89日|",
   "\u33e910日|\u33ea11日|\u33eb12日|\u33ec13日|\u33ed14日|\u33ee15日|\u33ef16日|\u33f017日|\u33f118日|",
   "\u33f219日|\u33f320日|\u33f421日|\u33f522日|\u33f623日|\u33f724日|\u33f825日|\u33f926日|\u33fa27日|",
   "\u33fb28日|\u33fc29日|\u33fd30日|\u33fe31日|\u33ffgal|ꚜъ|ꚝь|ꝰꝯ|Ᵹᵹ|Ꞌꞌ|Ɥɥ|Ɦɦ|Ɜɜ|Ɡɡ|Ɬɬ|Ɪɪ|Ʞʞ|Ʇʇ|Ʝʝ|Ꭓꭓ|Ꞔꞔ|Ʂʂ|Ᶎᶎ|",
   "\ua7cbɤ|\ua7dcƛ|\ua7f1s|ꟲc|ꟳf|ꟴq|Ꟶꟶ|ꟸħ|ꟹœ|ꭜꜧ|ꭝꬷ|ꭞɫ|ꭟꭒ|ꭩʍ|豈豈|更更|車車|賈賈|滑滑|串串|句句|龜龜|龜龜|契契|",
   "金金|喇喇|奈奈|懶懶|癩癩|羅羅|蘿蘿|螺螺|裸裸|邏邏|樂樂|洛洛|烙烙|珞珞|落落|酪酪|駱駱|亂亂|卵卵|欄欄|爛爛|",
   "蘭蘭|鸞鸞|嵐嵐|濫濫|藍藍|襤襤|拉拉|臘臘|蠟蠟|廊廊|朗朗|浪浪|狼狼|郎郎|來來|冷冷|勞勞|擄擄|櫓櫓|爐爐|盧盧|",
   "老老|蘆蘆|虜虜|路路|露露|魯魯|鷺鷺|碌碌|祿祿|綠綠|菉菉|錄錄|鹿鹿|論論|壟壟|弄弄|籠籠|聾聾|牢牢|磊磊|賂賂|",
   "雷雷|壘壘|屢屢|樓樓|淚淚|漏漏|累累|縷縷|陋陋|勒勒|肋肋|凜凜|凌凌|稜稜|綾綾|菱菱|陵陵|讀讀|拏拏|樂樂|諾諾|",
   "丹丹|寧寧|怒怒|率率|異異|北北|磻磻|便便|復復|不不|泌泌|數數|索索|參參|塞塞|省省|葉葉|說說|殺殺|辰辰|沈沈|",
   "拾拾|若若|掠掠|略略|亮亮|兩兩|凉凉|梁梁|糧糧|良良|諒諒|量量|勵勵|呂呂|女女|廬廬|旅旅|濾濾|礪礪|閭閭|驪驪|",
   "麗麗|黎黎|力力|曆曆|歷歷|轢轢|年年|憐憐|戀戀|撚撚|漣漣|煉煉|璉璉|秊秊|練練|聯聯|輦輦|蓮蓮|連連|鍊鍊|列列|",
   "劣劣|咽咽|烈烈|裂裂|說說|廉廉|念念|捻捻|殮殮|簾簾|獵獵|令令|囹囹|寧寧|嶺嶺|怜怜|玲玲|瑩瑩|羚羚|聆聆|鈴鈴|",
   "零零|靈靈|領領|例例|禮禮|醴醴|隸隸|惡惡|了了|僚僚|寮寮|尿尿|料料|樂樂|燎燎|療療|蓼蓼|遼遼|龍龍|暈暈|阮阮|",
   "劉劉|杻杻|柳柳|流流|溜溜|琉琉|留留|硫硫|紐紐|類類|六六|戮戮|陸陸|倫倫|崙崙|淪淪|輪輪|律律|慄慄|栗栗|率率|",
   "隆隆|利利|吏吏|履履|易易|李李|梨梨|泥泥|理理|痢痢|罹罹|裏裏|裡裡|里里|離離|匿匿|溺溺|吝吝|燐燐|璘璘|藺藺|",
   "隣隣|鱗鱗|麟麟|林林|淋淋|臨臨|立立|笠笠|粒粒|狀狀|炙炙|識識|什什|茶茶|刺刺|切切|度度|拓拓|糖糖|宅宅|洞洞|",
   "暴暴|輻輻|行行|降降|見見|廓廓|兀兀|嗀嗀|塚塚|晴晴|凞凞|猪猪|益益|礼礼|神神|祥祥|福福|靖靖|精精|羽羽|蘒蘒|",
   "諸諸|逸逸|都都|飯飯|飼飼|館館|鶴鶴|郞郞|隷隷|侮侮|僧僧|免免|勉勉|勤勤|卑卑|喝喝|嘆嘆|器器|塀塀|墨墨|層層|",
   "屮屮|悔悔|慨慨|憎憎|懲懲|敏敏|既既|暑暑|梅梅|海海|渚渚|漢漢|煮煮|爫爫|琢琢|碑碑|社社|祉祉|祈祈|祐祐|祖祖|",
   "祝祝|穀穀|突突|節節|練練|縉縉|繁繁|署署|者者|臭臭|艹艹|艹艹|著著|褐褐|視視|謁謁|謹謹|賓賓|贈贈|辶辶|逸逸|",
   "難難|響響|頻頻|恵恵|𤋮𤋮|舘舘|並並|况况|全全|侀侀|充充|冀冀|勇勇|勺勺|喝喝|啕啕|喙喙|嗢嗢|塚塚|墳墳|奄奄|",
   "奔奔|婢婢|嬨嬨|廒廒|廙廙|彩彩|徭徭|惘惘|慎慎|愈愈|憎憎|慠慠|懲懲|戴戴|揄揄|搜搜|摒摒|敖敖|晴晴|朗朗|望望|",
   "杖杖|歹歹|殺殺|流流|滛滛|滋滋|漢漢|瀞瀞|煮煮|瞧瞧|爵爵|犯犯|猪猪|瑱瑱|甆甆|画画|瘝瘝|瘟瘟|益益|盛盛|直直|",
   "睊睊|着着|磌磌|窱窱|節節|类类|絛絛|練練|缾缾|者者|荒荒|華華|蝹蝹|襁襁|覆覆|視視|調調|諸諸|請請|謁謁|諾諾|",
   "諭諭|謹謹|變變|贈贈|輸輸|遲遲|醙醙|鉶鉶|陼陼|難難|靖靖|韛韛|響響|頋頋|頻頻|鬒鬒|龜龜|𢡊𢡊|𢡄𢡄|𣏕𣏕|㮝㮝|",
   "䀘䀘|䀹䀹|𥉉𥉉|𥳐𥳐|𧻓𧻓|齃齃|龎龎|ﬀff|ﬁfi|ﬂfl|ﬃffi|ﬄffl|ﬅst|ﬆst|ﬓմն|ﬔմե|ﬕմի|ﬖվն|ﬗմխ|\ufb1d\u05d9\u05b4|",
   "\ufb1f\u05f2\u05b7|\ufb20\u05e2|\ufb21\u05d0|\ufb27\u05e8|\ufb28\u05ea|\ufb29+|\ufb2a\u05e9\u05c1|",
   "\ufb2b\u05e9\u05c2|\ufb2c\u05e9\u05bc\u05c1|\ufb2d\u05e9\u05bc\u05c2|\ufb2e\u05d0\u05b7|\ufb2f\u05d0\u05b8|",
   "\ufb30\u05d0\u05bc|\ufb31\u05d1\u05bc|\ufb32\u05d2\u05bc|\ufb33\u05d3\u05bc|\ufb34\u05d4\u05bc|",
   "\ufb35\u05d5\u05bc|\ufb36\u05d6\u05bc|\ufb38\u05d8\u05bc|\ufb39\u05d9\u05bc|\ufb3a\u05da\u05bc|",
   "\ufb3b\u05db\u05bc|\ufb3c\u05dc\u05bc|\ufb3e\u05de\u05bc|\ufb40\u05e0\u05bc|\ufb41\u05e1\u05bc|",
   "\ufb43\u05e3\u05bc|\ufb44\u05e4\u05bc|\ufb46\u05e6\u05bc|\ufb47\u05e7\u05bc|\ufb48\u05e8\u05bc|",
   "\ufb49\u05e9\u05bc|\ufb4a\u05ea\u05bc|\ufb4b\u05d5\u05b9|\ufb4c\u05d1\u05bf|\ufb4d\u05db\u05bf|",
   "\ufb4e\u05e4\u05bf|\ufb4f\u05d0\u05dc|\ufb50\u0671|\ufb51\u0671|\ufb52\u067b|\ufb53\u067b|\ufb54\u067b|",
   "\ufb55\u067b|\ufb56\u067e|\ufb57\u067e|\ufb58\u067e|\ufb59\u067e|\ufb5a\u0680|\ufb5b\u0680|\ufb5c\u0680|",
   "\ufb5d\u0680|\ufb5e\u067a|\ufb5f\u067a|\ufb60\u067a|\ufb61\u067a|\ufb62\u067f|\ufb63\u067f|\ufb64\u067f|",
   "\ufb65\u067f|\ufb66\u0679|\ufb67\u0679|\ufb68\u0679|\ufb69\u0679|\ufb6a\u06a4|\ufb6b\u06a4|\ufb6c\u06a4|",
   "\ufb6d\u06a4|\ufb6e\u06a6|\ufb6f\u06a6|\ufb70\u06a6|\ufb71\u06a6|\ufb72\u0684|\ufb73\u0684|\ufb74\u0684|",
   "\ufb75\u0684|\ufb76\u0683|\ufb77\u0683|\ufb78\u0683|\ufb79\u0683|\ufb7a\u0686|\ufb7b\u0686|\ufb7c\u0686|",
   "\ufb7f\u0687|\ufb80\u0687|\ufb81\u0687|\ufb82\u068d|\ufb83\u068d|\ufb84\u068c|\ufb85\u068c|\ufb86\u068e|",
   "\ufb87\u068e|\ufb88\u0688|\ufb89\u0688|\ufb8a\u0698|\ufb8b\u0698|\ufb8c\u0691|\ufb8d\u0691|\ufb8e\u06a9|",
   "\ufb8f\u06a9|\ufb90\u06a9|\ufb91\u06a9|\ufb92\u06af|\ufb93\u06af|\ufb94\u06af|\ufb95\u06af|\ufb96\u06b3|",
   "\ufb97\u06b3|\ufb98\u06b3|\ufb99\u06b3|\ufb9a\u06b1|\ufb9b\u06b1|\ufb9c\u06b1|\ufb9d\u06b1|\ufb9e\u06ba|",
   "\ufba1\u06bb|\ufba2\u06bb|\ufba3\u06bb|\ufba4\u06c0|\ufba7\u06c1|\ufba8\u06c1|\ufba9\u06c1|\ufbaa\u06be|",
   "\ufbab\u06be|\ufbac\u06be|\ufbad\u06be|\ufbae\u06d2|\ufbb1\u06d3|\ufbd3\u06ad|\ufbd4\u06ad|\ufbd5\u06ad|",
   "\ufbd6\u06ad|\ufbd7\u06c7|\ufbd8\u06c7|\ufbd9\u06c6|\ufbda\u06c6|\ufbdb\u06c8|\ufbdc\u06c8|",
   "\ufbdd\u06c7\u0674|\ufbde\u06cb|\ufbdf\u06cb|\ufbe0\u06c5|\ufbe1\u06c5|\ufbe2\u06c9|\ufbe3\u06c9|",
   "\ufbe4\u06d0|\ufbe5\u06d0|\ufbe6\u06d0|\ufbe7\u06d0|\ufbe8\u0649|\ufbe9\u0649|\ufbea\u0626\u0627|",
   "\ufbeb\u0626\u0627|\ufbec\u0626\u06d5|\ufbed\u0626\u06d5|\ufbee\u0626\u0648|\ufbef\u0626\u0648|",
   "\ufbf0\u0626\u06c7|\ufbf1\u0626\u06c7|\ufbf2\u0626\u06c6|\ufbf3\u0626\u06c6|\ufbf4\u0626\u06c8|",
   "\ufbf5\u0626\u06c8|\ufbf6\u0626\u06d0|\ufbf7\u0626\u06d0|\ufbf8\u0626\u06d0|\ufbf9\u0626\u0649|",
   "\ufbfa\u0626\u0649|\ufbfb\u0626\u0649|\ufbfc\u06cc|\ufbfd\u06cc|\ufbfe\u06cc|\ufbff\u06cc|",
   "\ufc00\u0626\u062c|\ufc01\u0626\u062d|\ufc02\u0626\u0645|\ufc03\u0626\u0649|\ufc04\u0626\u064a|",
   "\ufc05\u0628\u062c|\ufc06\u0628\u062d|\ufc07\u0628\u062e|\ufc08\u0628\u0645|\ufc09\u0628\u0649|",
   "\ufc0a\u0628\u064a|\ufc0b\u062a\u062c|\ufc0c\u062a\u062d|\ufc0d\u062a\u062e|\ufc0e\u062a\u0645|",
   "\ufc0f\u062a\u0649|\ufc10\u062a\u064a|\ufc11\u062b\u062c|\ufc12\u062b\u0645|\ufc13\u062b\u0649|",
   "\ufc14\u062b\u064a|\ufc15\u062c\u062d|\ufc16\u062c\u0645|\ufc17\u062d\u062c|\ufc18\u062d\u0645|",
   "\ufc19\u062e\u062c|\ufc1a\u062e\u062d|\ufc1b\u062e\u0645|\ufc1c\u0633\u062c|\ufc1d\u0633\u062d|",
   "\ufc1e\u0633\u062e|\ufc1f\u0633\u0645|\ufc20\u0635\u062d|\ufc21\u0635\u0645|\ufc22\u0636\u062c|",
   "\ufc23\u0636\u062d|\ufc24\u0636\u062e|\ufc25\u0636\u0645|\ufc26\u0637\u062d|\ufc27\u0637\u0645|",
   "\ufc28\u0638\u0645|\ufc29\u0639\u062c|\ufc2a\u0639\u0645|\ufc2b\u063a\u062c|\ufc2c\u063a\u0645|",
   "\ufc2d\u0641\u062c|\ufc2e\u0641\u062d|\ufc2f\u0641\u062e|\ufc30\u0641\u0645|\ufc31\u0641\u0649|",
   "\ufc32\u0641\u064a|\ufc33\u0642\u062d|\ufc34\u0642\u0645|\ufc35\u0642\u0649|\ufc36\u0642\u064a|",
   "\ufc37\u0643\u0627|\ufc38\u0643\u062c|\ufc39\u0643\u062d|\ufc3a\u0643\u062e|\ufc3b\u0643\u0644|",
   "\ufc3c\u0643\u0645|\ufc3d\u0643\u0649|\ufc3e\u0643\u064a|\ufc3f\u0644\u062c|\ufc40\u0644\u062d|",
   "\ufc41\u0644\u062e|\ufc42\u0644\u0645|\ufc43\u0644\u0649|\ufc44\u0644\u064a|\ufc45\u0645\u062c|",
   "\ufc46\u0645\u062d|\ufc47\u0645\u062e|\ufc48\u0645\u0645|\ufc49\u0645\u0649|\ufc4a\u0645\u064a|",
   "\ufc4b\u0646\u062c|\ufc4c\u0646\u062d|\ufc4d\u0646\u062e|\ufc4e\u0646\u0645|\ufc4f\u0646\u0649|",
   "\ufc50\u0646\u064a|\ufc51\u0647\u062c|\ufc52\u0647\u0645|\ufc53\u0647\u0649|\ufc54\u0647\u064a|",
   "\ufc55\u064a\u062c|\ufc56\u064a\u062d|\ufc57\u064a\u062e|\ufc58\u064a\u0645|\ufc59\u064a\u0649|",
   "\ufc5a\u064a\u064a|\ufc5b\u0630\u0670|\ufc5c\u0631\u0670|\ufc5d\u0649\u0670|\ufc5e \u064c\u0651|",
   "\ufc5f \u064d\u0651|\ufc60 \u064e\u0651|\ufc61 \u064f\u0651|\ufc62 \u0650\u0651|\ufc63 \u0651\u0670|",
   "\ufc64\u0626\u0631|\ufc65\u0626\u0632|\ufc66\u0626\u0645|\ufc67\u0626\u0646|\ufc68\u0626\u0649|",
   "\ufc69\u0626\u064a|\ufc6a\u0628\u0631|\ufc6b\u0628\u0632|\ufc6c\u0628\u0645|\ufc6d\u0628\u0646|",
   "\ufc6e\u0628\u0649|\ufc6f\u0628\u064a|\ufc70\u062a\u0631|\ufc71\u062a\u0632|\ufc72\u062a\u0645|",
   "\ufc73\u062a\u0646|\ufc74\u062a\u0649|\ufc75\u062a\u064a|\ufc76\u062b\u0631|\ufc77\u062b\u0632|",
   "\ufc78\u062b\u0645|\ufc79\u062b\u0646|\ufc7a\u062b\u0649|\ufc7b\u062b\u064a|\ufc7c\u0641\u0649|",
   "\ufc7d\u0641\u064a|\ufc7e\u0642\u0649|\ufc7f\u0642\u064a|\ufc80\u0643\u0627|\ufc81\u0643\u0644|",
   "\ufc82\u0643\u0645|\ufc83\u0643\u0649|\ufc84\u0643\u064a|\ufc85\u0644\u0645|\ufc86\u0644\u0649|",
   "\ufc87\u0644\u064a|\ufc88\u0645\u0627|\ufc89\u0645\u0645|\ufc8a\u0646\u0631|\ufc8b\u0646\u0632|",
   "\ufc8c\u0646\u0645|\ufc8d\u0646\u0646|\ufc8e\u0646\u0649|\ufc8f\u0646\u064a|\ufc90\u0649\u0670|",
   "\ufc91\u064a\u0631|\ufc92\u064a\u0632|\ufc93\u064a\u0645|\ufc94\u064a\u0646|\ufc95\u064a\u0649|",
   "\ufc96\u064a\u064a|\ufc97\u0626\u062c|\ufc98\u0626\u062d|\ufc99\u0626\u062e|\ufc9a\u0626\u0645|",
   "\ufc9b\u0626\u0647|\ufc9c\u0628\u062c|\ufc9d\u0628\u062d|\ufc9e\u0628\u062e|\ufc9f\u0628\u0645|",
   "\ufca0\u0628\u0647|\ufca1\u062a\u062c|\ufca2\u062a\u062d|\ufca3\u062a\u062e|\ufca4\u062a\u0645|",
   "\ufca5\u062a\u0647|\ufca6\u062b\u0645|\ufca7\u062c\u062d|\ufca8\u062c\u0645|\ufca9\u062d\u062c|",
   "\ufcaa\u062d\u0645|\ufcab\u062e\u062c|\ufcac\u062e\u0645|\ufcad\u0633\u062c|\ufcae\u0633\u062d|",
   "\ufcaf\u0633\u062e|\ufcb0\u0633\u0645|\ufcb1\u0635\u062d|\ufcb2\u0635\u062e|\ufcb3\u0635\u0645|",
   "\ufcb4\u0636\u062c|\ufcb5\u0636\u062d|\ufcb6\u0636\u062e|\ufcb7\u0636\u0645|\ufcb8\u0637\u062d|",
   "\ufcb9\u0638\u0645|\ufcba\u0639\u062c|\ufcbb\u0639\u0645|\ufcbc\u063a\u062c|\ufcbd\u063a\u0645|",
   "\ufcbe\u0641\u062c|\ufcbf\u0641\u062d|\ufcc0\u0641\u062e|\ufcc1\u0641\u0645|\ufcc2\u0642\u062d|",
   "\ufcc3\u0642\u0645|\ufcc4\u0643\u062c|\ufcc5\u0643\u062d|\ufcc6\u0643\u062e|\ufcc7\u0643\u0644|",
   "\ufcc8\u0643\u0645|\ufcc9\u0644\u062c|\ufcca\u0644\u062d|\ufccb\u0644\u062e|\ufccc\u0644\u0645|",
   "\ufccd\u0644\u0647|\ufcce\u0645\u062c|\ufccf\u0645\u062d|\ufcd0\u0645\u062e|\ufcd1\u0645\u0645|",
   "\ufcd2\u0646\u062c|\ufcd3\u0646\u062d|\ufcd4\u0646\u062e|\ufcd5\u0646\u0645|\ufcd6\u0646\u0647|",
   "\ufcd7\u0647\u062c|\ufcd8\u0647\u0645|\ufcd9\u0647\u0670|\ufcda\u064a\u062c|\ufcdb\u064a\u062d|",
   "\ufcdc\u064a\u062e|\ufcdd\u064a\u0645|\ufcde\u064a\u0647|\ufcdf\u0626\u0645|\ufce0\u0626\u0647|",
   "\ufce1\u0628\u0645|\ufce2\u0628\u0647|\ufce3\u062a\u0645|\ufce4\u062a\u0647|\ufce5\u062b\u0645|",
   "\ufce6\u062b\u0647|\ufce7\u0633\u0645|\ufce8\u0633\u0647|\ufce9\u0634\u0645|\ufcea\u0634\u0647|",
   "\ufceb\u0643\u0644|\ufcec\u0643\u0645|\ufced\u0644\u0645|\ufcee\u0646\u0645|\ufcef\u0646\u0647|",
   "\ufcf0\u064a\u0645|\ufcf1\u064a\u0647|\ufcf2\u0640\u064e\u0651|\ufcf3\u0640\u064f\u0651|",
   "\ufcf4\u0640\u0650\u0651|\ufcf5\u0637\u0649|\ufcf6\u0637\u064a|\ufcf7\u0639\u0649|\ufcf8\u0639\u064a|",
   "\ufcf9\u063a\u0649|\ufcfa\u063a\u064a|\ufcfb\u0633\u0649|\ufcfc\u0633\u064a|\ufcfd\u0634\u0649|",
   "\ufcfe\u0634\u064a|\ufcff\u062d\u0649|\ufd00\u062d\u064a|\ufd01\u062c\u0649|\ufd02\u062c\u064a|",
   "\ufd03\u062e\u0649|\ufd04\u062e\u064a|\ufd05\u0635\u0649|\ufd06\u0635\u064a|\ufd07\u0636\u0649|",
   "\ufd08\u0636\u064a|\ufd09\u0634\u062c|\ufd0a\u0634\u062d|\ufd0b\u0634\u062e|\ufd0c\u0634\u0645|",
   "\ufd0d\u0634\u0631|\ufd0e\u0633\u0631|\ufd0f\u0635\u0631|\ufd10\u0636\u0631|\ufd11\u0637\u0649|",
   "\ufd12\u0637\u064a|\ufd13\u0639\u0649|\ufd14\u0639\u064a|\ufd15\u063a\u0649|\ufd16\u063a\u064a|",
   "\ufd17\u0633\u0649|\ufd18\u0633\u064a|\ufd19\u0634\u0649|\ufd1a\u0634\u064a|\ufd1b\u062d\u0649|",
   "\ufd1c\u062d\u064a|\ufd1d\u062c\u0649|\ufd1e\u062c\u064a|\ufd1f\u062e\u0649|\ufd20\u062e\u064a|",
   "\ufd21\u0635\u0649|\ufd22\u0635\u064a|\ufd23\u0636\u0649|\ufd24\u0636\u064a|\ufd25\u0634\u062c|",
   "\ufd26\u0634\u062d|\ufd27\u0634\u062e|\ufd28\u0634\u0645|\ufd29\u0634\u0631|\ufd2a\u0633\u0631|",
   "\ufd2b\u0635\u0631|\ufd2c\u0636\u0631|\ufd2d\u0634\u062c|\ufd2e\u0634\u062d|\ufd2f\u0634\u062e|",
   "\ufd30\u0634\u0645|\ufd31\u0633\u0647|\ufd32\u0634\u0647|\ufd33\u0637\u0645|\ufd34\u0633\u062c|",
   "\ufd35\u0633\u062d|\ufd36\u0633\u062e|\ufd37\u0634\u062c|\ufd38\u0634\u062d|\ufd39\u0634\u062e|",
   "\ufd3a\u0637\u0645|\ufd3b\u0638\u0645|\ufd3c\u0627\u064b|\ufd3d\u0627\u064b|\ufd50\u062a\u062c\u0645|",
   "\ufd51\u062a\u062d\u062c|\ufd52\u062a\u062d\u062c|\ufd53\u062a\u062d\u0645|\ufd54\u062a\u062e\u0645|",
   "\ufd55\u062a\u0645\u062c|\ufd56\u062a\u0645\u062d|\ufd57\u062a\u0645\u062e|\ufd58\u062c\u0645\u062d|",
   "\ufd59\u062c\u0645\u062d|\ufd5a\u062d\u0645\u064a|\ufd5b\u062d\u0645\u0649|\ufd5c\u0633\u062d\u062c|",
   "\ufd5d\u0633\u062c\u062d|\ufd5e\u0633\u062c\u0649|\ufd5f\u0633\u0645\u062d|\ufd60\u0633\u0645\u062d|",
   "\ufd61\u0633\u0645\u062c|\ufd62\u0633\u0645\u0645|\ufd63\u0633\u0645\u0645|\ufd64\u0635\u062d\u062d|",
   "\ufd65\u0635\u062d\u062d|\ufd66\u0635\u0645\u0645|\ufd67\u0634\u062d\u0645|\ufd68\u0634\u062d\u0645|",
   "\ufd69\u0634\u062c\u064a|\ufd6a\u0634\u0645\u062e|\ufd6b\u0634\u0645\u062e|\ufd6c\u0634\u0645\u0645|",
   "\ufd6d\u0634\u0645\u0645|\ufd6e\u0636\u062d\u0649|\ufd6f\u0636\u062e\u0645|\ufd70\u0636\u062e\u0645|",
   "\ufd71\u0637\u0645\u062d|\ufd72\u0637\u0645\u062d|\ufd73\u0637\u0645\u0645|\ufd74\u0637\u0645\u064a|",
   "\ufd75\u0639\u062c\u0645|\ufd76\u0639\u0645\u0645|\ufd77\u0639\u0645\u0645|\ufd78\u0639\u0645\u0649|",
   "\ufd79\u063a\u0645\u0645|\ufd7a\u063a\u0645\u064a|\ufd7b\u063a\u0645\u0649|\ufd7c\u0641\u062e\u0645|",
   "\ufd7d\u0641\u062e\u0645|\ufd7e\u0642\u0645\u062d|\ufd7f\u0642\u0645\u0645|\ufd80\u0644\u062d\u0645|",
   "\ufd81\u0644\u062d\u064a|\ufd82\u0644\u062d\u0649|\ufd83\u0644\u062c\u062c|\ufd84\u0644\u062c\u062c|",
   "\ufd85\u0644\u062e\u0645|\ufd86\u0644\u062e\u0645|\ufd87\u0644\u0645\u062d|\ufd88\u0644\u0645\u062d|",
   "\ufd89\u0645\u062d\u062c|\ufd8a\u0645\u062d\u0645|\ufd8b\u0645\u062d\u064a|\ufd8c\u0645\u062c\u062d|",
   "\ufd8d\u0645\u062c\u0645|\ufd8e\u0645\u062e\u062c|\ufd8f\u0645\u062e\u0645|\ufd92\u0645\u062c\u062e|",
   "\ufd93\u0647\u0645\u062c|\ufd94\u0647\u0645\u0645|\ufd95\u0646\u062d\u0645|\ufd96\u0646\u062d\u0649|",
   "\ufd97\u0646\u062c\u0645|\ufd98\u0646\u062c\u0645|\ufd99\u0646\u062c\u0649|\ufd9a\u0646\u0645\u064a|",
   "\ufd9b\u0646\u0645\u0649|\ufd9c\u064a\u0645\u0645|\ufd9d\u064a\u0645\u0645|\ufd9e\u0628\u062e\u064a|",
   "\ufd9f\u062a\u062c\u064a|\ufda0\u062a\u062c\u0649|\ufda1\u062a\u062e\u064a|\ufda2\u062a\u062e\u0649|",
   "\ufda3\u062a\u0645\u064a|\ufda4\u062a\u0645\u0649|\ufda5\u062c\u0645\u064a|\ufda6\u062c\u062d\u0649|",
   "\ufda7\u062c\u0645\u0649|\ufda8\u0633\u062e\u0649|\ufda9\u0635\u062d\u064a|\ufdaa\u0634\u062d\u064a|",
   "\ufdab\u0636\u062d\u064a|\ufdac\u0644\u062c\u064a|\ufdad\u0644\u0645\u064a|\ufdae\u064a\u062d\u064a|",
   "\ufdaf\u064a\u062c\u064a|\ufdb0\u064a\u0645\u064a|\ufdb1\u0645\u0645\u064a|\ufdb2\u0642\u0645\u064a|",
   "\ufdb3\u0646\u062d\u064a|\ufdb4\u0642\u0645\u062d|\ufdb5\u0644\u062d\u0645|\ufdb6\u0639\u0645\u064a|",
   "\ufdb7\u0643\u0645\u064a|\ufdb8\u0646\u062c\u062d|\ufdb9\u0645\u062e\u064a|\ufdba\u0644\u062c\u0645|",
   "\ufdbb\u0643\u0645\u0645|\ufdbc\u0644\u062c\u0645|\ufdbd\u0646\u062c\u062d|\ufdbe\u062c\u062d\u064a|",
   "\ufdbf\u062d\u062c\u064a|\ufdc0\u0645\u062c\u064a|\ufdc1\u0641\u0645\u064a|\ufdc2\u0628\u062d\u064a|",
   "\ufdc3\u0643\u0645\u0645|\ufdc4\u0639\u062c\u0645|\ufdc5\u0635\u0645\u0645|\ufdc6\u0633\u062e\u064a|",
   "\ufdc7\u0646\u062c\u064a|\ufdf0\u0635\u0644\u06d2|\ufdf1\u0642\u0644\u06d2|\ufdf2\u0627\u0644\u0644\u0647|",
   "\ufdf3\u0627\u0643\u0628\u0631|\ufdf4\u0645\u062d\u0645\u062f|\ufdf5\u0635\u0644\u0639\u0645|",
   "\ufdf6\u0631\u0633\u0648\u0644|\ufdf7\u0639\u0644\u064a\u0647|\ufdf8\u0648\u0633\u0644\u0645|",
   "\ufdf9\u0635\u0644\u0649|",
   "\ufdfa\u0635\u0644\u0649 \u0627\u0644\u0644\u0647 \u0639\u0644\u064a\u0647 \u0648\u0633\u0644\u0645|",
   "\ufdfb\u062c\u0644 \u062c\u0644\u0627\u0644\u0647|\ufdfc\u0631\u06cc\u0627\u0644|\ufe10,|\ufe11\u3001|",
   "\ufe15!|\ufe16?|\ufe31\u2014|\ufe32\u2013|\ufe33_|\ufe34_|\ufe37\u007b|\ufe38\u007d|\ufe47[|\ufe48]|",
   "\ufe49 \u0305|\ufe4a \u0305|\ufe4b \u0305|\ufe4c \u0305|\ufe4d_|\ufe4e_|\ufe4f_|\ufe50,|\ufe51\u3001|",
   "\ufe54;|\ufe55:|\ufe56?|\ufe57!|\ufe58\u2014|\ufe5b\u007b|\ufe5c\u007d|\ufe5f#|\ufe60&|\ufe63-|\ufe64<|",
   "\ufe65>|\ufe66=|\ufe68\u005c|\ufe6b@|\ufe70 \u064b|\ufe71\u0640\u064b|\ufe72 \u064c|\ufe74 \u064d|",
   "\ufe76 \u064e|\ufe77\u0640\u064e|\ufe78 \u064f|\ufe79\u0640\u064f|\ufe7a \u0650|\ufe7b\u0640\u0650|",
   "\ufe7c \u0651|\ufe7d\u0640\u0651|\ufe7e \u0652|\ufe7f\u0640\u0652|\ufe8a\u0626|\ufe8b\u0626|\ufe90\u0628|",
   "\ufe91\u0628|\ufe96\u062a|\ufe97\u062a|\ufe9a\u062b|\ufe9b\u062b|\ufe9e\u062c|\ufe9f\u062c|\ufea2\u062d|",
   "\ufea3\u062d|\ufea6\u062e|\ufea7\u062e|\ufeb2\u0633|\ufeb3\u0633|\ufeb6\u0634|\ufeb7\u0634|\ufeba\u0635|",
   "\ufebb\u0635|\ufebe\u0636|\ufebf\u0636|\ufec2\u0637|\ufec3\u0637|\ufec6\u0638|\ufec7\u0638|\ufeca\u0639|",
   "\ufecb\u0639|\ufece\u063a|\ufecf\u063a|\ufed0\u063a|\ufed1\u0641|\ufed2\u0641|\ufed3\u0641|\ufed6\u0642|",
   "\ufed7\u0642|\ufeda\u0643|\ufedb\u0643|\ufede\u0644|\ufedf\u0644|\ufee2\u0645|\ufee3\u0645|\ufee6\u0646|",
   "\ufee7\u0646|\ufeea\u0647|\ufeeb\u0647|\ufef2\u064a|\ufef3\u064a|\ufef4\u064a|\ufef5\u0644\u0622|",
   "\ufef6\u0644\u0622|\ufef7\u0644\u0623|\ufef8\u0644\u0623|\ufef9\u0644\u0625|\ufefa\u0644\u0625|",
   "\ufefb\u0644\u0627|\ufefc\u0644\u0627|\uff61.|\uff64\u3001|\uff65\u30fb|ｦヲ|ｧァ|ｨィ|ｩゥ|ｪェ|ｫォ|ｬャ|ｭュ|ｮョ|",
   "ｯッ|ｰー|ｱア|ｲイ|ｳウ|ｴエ|ｷキ|ｸク|ｹケ|ｺコ|ｻサ|ｼシ|ｽス|ｾセ|ｿソ|ﾀタ|ﾁチ|ﾂツ|ﾃテ|ﾄト|ﾋヒ|ﾌフ|ﾍヘ|ﾎホ|ﾔヤ|ﾕユ|ﾜワ|",
   "ﾝン|ﾣᆪ|ﾤᄂ|ﾰᄚ|ﾴᄡ|\uffe2\u00ac|\uffe3 \u0304|\uffe4\u00a6|\uffe5\u00a5|\uffe6\u20a9|\uffe8\u2502|",
   "\uffed\u25a0|\uffee\u25cb|𐞃æ|𐞄ʙ|𐞅ɓ|𐞇ʣ|𐞈ꭦ|𐞉ʥ|𐞊ʤ|𐞍ᶑ|𐞎ɘ|𐞏ɞ|𐞐ʩ|𐞑ɤ|𐞒ɢ|𐞓ɠ|𐞔ʛ|𐞕ħ|𐞖ʜ|𐞗ɧ|𐞘ʄ|𐞛ɬ|𐞜𝼄|𐞝ꞎ|𐞞ɮ|𐞟𝼅|𐞠ʎ|𐞡𝼆|𐞢ø|",
   "𐞥q|𐞦ɺ|𐞧𝼈|𐞪ʀ|𐞫ʨ|𐞬ʦ|𐞭ꭧ|𐞮ʧ|𐞯ʈ|𐞰ⱱ|𐞲ʏ|𐞵ʘ|𐞹𝼊|𐞺𝼞|𝅗𝅥𝅗𝅥|𝅘𝅥𝅘𝅥|𝅘𝅥𝅮𝅘𝅥𝅮|𝅘𝅥𝅯𝅘𝅥𝅯|𝅘𝅥𝅰𝅘𝅥𝅰|𝅘𝅥𝅱𝅘𝅥𝅱|𝅘𝅥𝅲𝅘𝅥𝅲|𝆹𝅥𝆹𝅥|𝆺𝅥𝆺𝅥|𝆹𝅥𝅮𝆹𝅥𝅮|𝆺𝅥𝅮𝆺𝅥𝅮|𝆹𝅥𝅯𝆹𝅥𝅯|𝆺𝅥𝅯𝆺𝅥𝅯|𝒟d|",
   "𝒢g|𝕆o|𝚤ı|𝚥ȷ|𝚹θ|𝛁\u2207|𝛓σ|𝛛\u2202|𝛜ε|𝛝θ|𝛞κ|𝛟φ|𝛠ρ|𝛡π|𝛳θ|𝛻\u2207|𝜍σ|𝜕\u2202|𝜖ε|𝜗θ|𝜘κ|𝜙φ|𝜚ρ|𝜛π|𝜭θ|𝜵\u2207|𝝇σ|",
   "𝝏\u2202|𝝐ε|𝝑θ|𝝒κ|𝝓φ|𝝔ρ|𝝕π|𝝧θ|𝝯\u2207|𝞁σ|𝞉\u2202|𝞊ε|𝞋θ|𝞌κ|𝞍φ|𝞎ρ|𝞏π|𝞡θ|𝞩\u2207|𝞻σ|𝟃\u2202|𝟄ε|𝟅θ|𝟆κ|𝟇φ|𝟈ρ|𝟉π|",
   "𝟊ϝ|𝟋ϝ|𞁇ы|𞁊ꚉ|𞁋ә|𞁌і|𞁍ј|𞁎ө|𞁏ү|𞁐ӏ|𞁞с|𞁧ґ|𞁨і|𞁩ѕ|𞁪џ|𞁫ҫ|𞁬ꙑ|𞁭ұ|𞸂\u062c|𞸃\u062f|𞸅\u0648|𞸆\u0632|𞸇\u062d|𞸈\u0637|",
   "𞸉\u064a|𞸎\u0633|𞸏\u0639|𞸐\u0641|𞸑\u0635|𞸒\u0642|𞸓\u0631|𞸔\u0634|𞸗\u062e|𞸘\u0630|𞸙\u0636|𞸚\u0638|𞸛\u063a|",
   "𞸜\u066e|𞸝\u06ba|𞸞\u06a1|𞸟\u066f|𞸡\u0628|𞸢\u062c|𞸤\u0647|𞸧\u062d|𞸩\u064a|𞸮\u0633|𞸯\u0639|𞸰\u0641|𞸱\u0635|",
   "𞸲\u0642|𞸴\u0634|𞸷\u062e|𞸹\u0636|𞸻\u063a|𞹂\u062c|𞹇\u062d|𞹉\u064a|𞹎\u0633|𞹏\u0639|𞹑\u0635|𞹒\u0642|𞹔\u0634|",
   "𞹗\u062e|𞹙\u0636|𞹛\u063a|𞹝\u06ba|𞹟\u066f|𞹡\u0628|𞹢\u062c|𞹤\u0647|𞹧\u062d|𞹨\u0637|𞹩\u064a|𞹭\u0646|𞹮\u0633|",
   "𞹯\u0639|𞹰\u0641|𞹱\u0635|𞹲\u0642|𞹴\u0634|𞹷\u062e|𞹹\u0636|𞹺\u0638|𞹻\u063a|𞹼\u066e|𞹾\u06a1|𞺂\u062c|𞺃\u062f|",
   "𞺆\u0632|𞺇\u062d|𞺈\u0637|𞺉\u064a|𞺎\u0633|𞺏\u0639|𞺐\u0641|𞺑\u0635|𞺒\u0642|𞺓\u0631|𞺔\u0634|𞺗\u062e|𞺘\u0630|",
   "𞺙\u0636|𞺚\u0638|𞺛\u063a|𞺡\u0628|𞺢\u062c|𞺣\u062f|𞺥\u0648|𞺦\u0632|𞺧\u062d|𞺨\u0637|𞺩\u064a|𞺮\u0633|𞺯\u0639|",
   "𞺰\u0641|𞺱\u0635|𞺲\u0642|𞺳\u0631|𞺴\u0634|𞺷\u062e|𞺸\u0630|𞺹\u0636|𞺺\u0638|𞺻\u063a|🄁0,|🄂1,|🄃2,|🄄3,|🄅4,|🄆5,|🄇6,|",
   "🄈7,|🄉8,|🄊9,|🄐(a)|🄑(b)|🄒(c)|🄓(d)|🄔(e)|🄕(f)|🄖(g)|🄗(h)|🄘(i)|🄙(j)|🄚(k)|🄛(l)|🄜(m)|🄝(n)|🄞(o)|🄟(p)|🄠(q)|🄡(r)|🄢(s)|",
   "🄣(t)|🄤(u)|🄥(v)|🄦(w)|🄧(x)|🄨(y)|🄩(z)|🄪\u3014s\u3015|🄫c|🄬r|🄭cd|🄮wz|🅊hv|🅋mv|🅌sd|🅍ss|🅎ppv|🅏wc|🅪mc|🅫md|🅬mr|🆐dj|",
   "🈀ほか|🈁ココ|🈂サ|🈐手|🈑字|🈒双|🈓デ|🈔二|🈕多|🈖解|🈗天|🈘交|🈙映|🈚無|🈛料|🈜前|🈝後|🈞再|🈟新|🈠初|",
   "🈡終|🈢生|🈣販|🈤声|🈥吹|🈦演|🈧投|🈨捕|🈩一|🈪三|🈫遊|🈬左|🈭中|🈮右|🈯指|🈰走|🈱打|🈲禁|🈳空|🈴合|🈵満|",
   "🈶有|🈷月|🈸申|🈹割|🈺営|🈻配|🉀\u3014本\u3015|🉁\u3014三\u3015|🉂\u3014二\u3015|🉃\u3014安\u3015|",
   "🉄\u3014点\u3015|🉅\u3014打\u3015|🉆\u3014盗\u3015|🉇\u3014勝\u3015|🉈\u3014敗\u3015|🉐得|🉑可|丽丽|丸丸|",
   "乁乁|𠄢𠄢|你你|侮侮|侻侻|倂倂|偺偺|備備|僧僧|像像|㒞㒞|𠘺𠘺|免免|兔兔|兤兤|具具|𠔜𠔜|㒹㒹|內內|再再|𠕋𠕋|",
   "冗冗|冤冤|仌仌|冬冬|况况|𩇟𩇟|凵凵|刃刃|㓟㓟|刻刻|剆剆|割割|剷剷|㔕㔕|勇勇|勉勉|勤勤|勺勺|北北|卉卉|卑卑|",
   "博博|即即|卽卽|卿卿|卿卿|卿卿|𠨬𠨬|灰灰|及及|叟叟|𠭣𠭣|叫叫|叱叱|吆吆|咞咞|吸吸|呈呈|周周|咢咢|哶哶|唐唐|",
   "啓啓|啣啣|善善|善善|喙喙|喫喫|喳喳|嗂嗂|圖圖|嘆嘆|圗圗|噑噑|噴噴|切切|壮壮|城城|埴埴|堍堍|型型|堲堲|報報|",
   "墬墬|𡓤𡓤|売売|壷壷|夆夆|多多|夢夢|奢奢|𡚨𡚨|𡛪𡛪|姬姬|娛娛|娧娧|姘姘|婦婦|㛮㛮|㛼㛼|嬈嬈|嬾嬾|嬾嬾|𡧈𡧈|",
   "寃寃|寘寘|寧寧|寳寳|𡬘𡬘|寿寿|将将|当当|尢尢|㞁㞁|屠屠|屮屮|峀峀|岍岍|𡷤𡷤|嵃嵃|𡷦𡷦|嵮嵮|嵫嵫|嵼嵼|㠯㠯|",
   "巽巽|帨帨|帽帽|幩幩|㡢㡢|𢆃𢆃|㡼㡼|庰庰|庳庳|庶庶|廊廊|𪎒𪎒|廾廾|𢌱𢌱|𢌱𢌱|舁舁|弢弢|弢弢|㣇㣇|𣊸𣊸|𦇚𦇚|",
   "形形|彫彫|㣣㣣|徚徚|忍忍|志志|忹忹|悁悁|㤺㤺|㤜㤜|悔悔|𢛔𢛔|惇惇|慈慈|慌慌|慎慎|慌慌|慺慺|憎憎|憲憲|憤憤|",
   "憯憯|懞懞|懲懲|懶懶|成成|戛戛|扝扝|抱抱|拔拔|捐捐|𢬌𢬌|挽挽|拼拼|捨捨|掃掃|揤揤|𢯱𢯱|搢搢|揅揅|掩掩|㨮㨮|",
   "摩摩|摾摾|撝撝|摷摷|㩬㩬|敏敏|敬敬|𣀊𣀊|旣旣|書書|晉晉|㬙㬙|暑暑|㬈㬈|㫤㫤|冒冒|冕冕|最最|暜暜|肭肭|䏙䏙|",
   "朗朗|望望|朡朡|杞杞|杓杓|𣏃𣏃|㭉㭉|柺柺|枅枅|桒桒|梅梅|𣑭𣑭|梎梎|栟栟|椔椔|㮝㮝|楂楂|榣榣|槪槪|檨檨|𣚣𣚣|",
   "櫛櫛|㰘㰘|次次|𣢧𣢧|歔歔|㱎㱎|歲歲|殟殟|𣪍𣪍|𡴋𡴋|𣫺𣫺|汎汎|𣲼𣲼|沿沿|泍泍|汧汧|洖洖|派派|海海|流流|浩浩|",
   "浸浸|涅涅|𣴞𣴞|洴洴|港港|湮湮|㴳㴳|滋滋|滇滇|𣻑𣻑|淹淹|潮潮|𣽞𣽞|𣾎𣾎|濆濆|瀹瀹|瀞瀞|瀛瀛|㶖㶖|灊灊|災災|",
   "灷灷|炭炭|𠔥𠔥|煅煅|𤉣𤉣|熜熜|𤎫𤎫|爨爨|爵爵|牐牐|𤘈𤘈|犀犀|犕犕|𤜵𤜵|𤠔𤠔|獺獺|王王|㺬㺬|玥玥|㺸㺸|㺸㺸|",
   "瑇瑇|瑜瑜|瑱瑱|璅璅|瓊瓊|㼛㼛|甤甤|𤰶𤰶|甾甾|𤲒𤲒|異異|𢆟𢆟|瘐瘐|𤾡𤾡|𤾸𤾸|𥁄𥁄|㿼㿼|䀈䀈|直直|𥃳𥃳|𥃲𥃲|",
   "𥄙𥄙|𥄳𥄳|真真|睊睊|䀹䀹|瞋瞋|䁆䁆|䂖䂖|𥐝𥐝|硎硎|碌碌|磌磌|䃣䃣|𥘦𥘦|祖祖|𥚚𥚚|𥛅𥛅|福福|秫秫|䄯䄯|穀穀|",
   "穊穊|穏穏|𥥼𥥼|𥪧𥪧|𥪧𥪧|竮竮|䈂䈂|𥮫𥮫|篆篆|築築|䈧䈧|𥲀𥲀|糒糒|䊠䊠|糨糨|糣糣|紀紀|𥾆𥾆|絣絣|䌁䌁|緇緇|",
   "縂縂|繅繅|䌴䌴|𦈨𦈨|𦉇𦉇|䍙䍙|𦋙𦋙|罺罺|𦌾𦌾|羕羕|翺翺|者者|𦓚𦓚|𦔣𦔣|聠聠|𦖨𦖨|聰聰|𣍟𣍟|䏕䏕|育育|脃脃|",
   "䐋䐋|脾脾|媵媵|𦞧𦞧|𦞵𦞵|𣎓𣎓|𣎜𣎜|舁舁|舄舄|辞辞|䑫䑫|芑芑|芋芋|芝芝|劳劳|花花|芳芳|芽芽|苦苦|𦬼𦬼|若若|",
   "茝茝|荣荣|莭莭|茣茣|莽莽|菧菧|著著|荓荓|菊菊|菌菌|菜菜|𦰶𦰶|𦵫𦵫|𦳕𦳕|䔫䔫|蓱蓱|蓳蓳|蔖蔖|𧏊𧏊|蕤蕤|𦼬𦼬|",
   "䕝䕝|䕡䕡|𦾱𦾱|𧃒𧃒|䕫䕫|虐虐|虜虜|虧虧|虩虩|蚩蚩|蚈蚈|蜎蜎|蛢蛢|蝹蝹|蜨蜨|蝫蝫|螆螆|䗗䗗|蟡蟡|蠁蠁|䗹䗹|",
   "衠衠|衣衣|𧙧𧙧|裗裗|裞裞|䘵䘵|裺裺|㒻㒻|𧢮𧢮|𧥦𧥦|䚾䚾|䛇䛇|誠誠|諭諭|變變|豕豕|𧲨𧲨|貫貫|賁賁|贛贛|起起|",
   "𧼯𧼯|𠠄𠠄|跋跋|趼趼|跰跰|𠣞𠣞|軔軔|輸輸|𨗒𨗒|𨗭𨗭|邔邔|郱郱|鄑鄑|𨜮𨜮|鄛鄛|鈸鈸|鉼鉼|鏹鏹|鐕鐕|𨯺𨯺|開開|",
   "䦕䦕|閷閷|𨵷𨵷|䧦䧦|雃雃|嶲嶲|霣霣|𩅅𩅅|𩈚𩈚|䩮䩮|䩶䩶|韠韠|𩐊𩐊|䪲䪲|𩒖𩒖|頋頋|頋頋|頩頩|𩖶𩖶|飢飢|䬳䬳|",
   "餩餩|馧馧|駂駂|駾駾|䯎䯎|𩬰𩬰|鬒鬒|鱀鱀|鳽鳽|䳎䳎|䳭䳭|鵧鵧|𪃎𪃎|䳸䳸|𪄅𪄅|𪈎𪈎|𪊑𪊑|麻麻|䵖䵖|黹黹|黾黾|",
   "鼅鼅|鼏鼏|鼖鼖|鼻鼻|𪘀𪘀|"]

/-- Code points that are left out. -/
def ignoredRanges : List (Nat × Nat) :=
  [(0xAD, 0xAD), (0x34F, 0x34F), (0x115F, 0x1160), (0x17B4, 0x17B5), (0x180B, 0x180F), (0x200B, 0x200B),
   (0x2060, 0x2064), (0x206A, 0x206F), (0x3164, 0x3164), (0xFE00, 0xFE0F), (0xFEFF, 0xFEFF), (0xFFA0, 0xFFA0),
   (0x1BCA0, 0x1BCA3), (0x1D173, 0x1D17A), (0xE0100, 0xE01EF)]

/-- Code points that no domain name may hold. -/
def disallowedRanges : List (Nat × Nat) :=
  [(0x80, 0x9F), (0x378, 0x379), (0x380, 0x383), (0x38B, 0x38B), (0x38D, 0x38D), (0x3A2, 0x3A2), (0x530, 0x530),
   (0x557, 0x558), (0x58B, 0x58C), (0x590, 0x590), (0x5C8, 0x5CF), (0x5EB, 0x5EE), (0x5F5, 0x605), (0x61C, 0x61C),
   (0x6DD, 0x6DD), (0x70E, 0x70F), (0x74B, 0x74C), (0x7B2, 0x7BF), (0x7FB, 0x7FC), (0x82E, 0x82F), (0x83F, 0x83F),
   (0x85C, 0x85D), (0x85F, 0x85F), (0x86B, 0x86F), (0x890, 0x896), (0x8E2, 0x8E2), (0x984, 0x984), (0x98D, 0x98E),
   (0x991, 0x992), (0x9A9, 0x9A9), (0x9B1, 0x9B1), (0x9B3, 0x9B5), (0x9BA, 0x9BB), (0x9C5, 0x9C6), (0x9C9, 0x9CA),
   (0x9CF, 0x9D6), (0x9D8, 0x9DB), (0x9DE, 0x9DE), (0x9E4, 0x9E5), (0x9FF, 0xA00), (0xA04, 0xA04), (0xA0B, 0xA0E),
   (0xA11, 0xA12), (0xA29, 0xA29), (0xA31, 0xA31), (0xA34, 0xA34), (0xA37, 0xA37), (0xA3A, 0xA3B), (0xA3D, 0xA3D),
   (0xA43, 0xA46), (0xA49, 0xA4A), (0xA4E, 0xA50), (0xA52, 0xA58), (0xA5D, 0xA5D), (0xA5F, 0xA65), (0xA77, 0xA80),
   (0xA84, 0xA84), (0xA8E, 0xA8E), (0xA92, 0xA92), (0xAA9, 0xAA9), (0xAB1, 0xAB1), (0xAB4, 0xAB4), (0xABA, 0xABB),
   (0xAC6, 0xAC6), (0xACA, 0xACA), (0xACE, 0xACF), (0xAD1, 0xADF), (0xAE4, 0xAE5), (0xAF2, 0xAF8), (0xB00, 0xB00),
   (0xB04, 0xB04), (0xB0D, 0xB0E), (0xB11, 0xB12), (0xB29, 0xB29), (0xB31, 0xB31), (0xB34, 0xB34), (0xB3A, 0xB3B),
   (0xB45, 0xB46), (0xB49, 0xB4A), (0xB4E, 0xB54), (0xB58, 0xB5B), (0xB5E, 0xB5E), (0xB64, 0xB65), (0xB78, 0xB81),
   (0xB84, 0xB84), (0xB8B, 0xB8D), (0xB91, 0xB91), (0xB96, 0xB98), (0xB9B, 0xB9B), (0xB9D, 0xB9D), (0xBA0, 0xBA2),
   (0xBA5, 0xBA7), (0xBAB, 0xBAD), (0xBBA, 0xBBD), (0xBC3, 0xBC5), (0xBC9, 0xBC9), (0xBCE, 0xBCF), (0xBD1, 0xBD6),
   (0xBD8, 0xBE5), (0xBFB, 0xBFF), (0xC0D, 0xC0D), (0xC11, 0xC11), (0xC29, 0xC29), (0xC3A, 0xC3B), (0xC45, 0xC45),
   (0xC49, 0xC49), (0xC4E, 0xC54), (0xC57, 0xC57), (0xC5B, 0xC5B), (0xC5E, 0xC5F), (0xC64, 0xC65), (0xC70, 0xC76),
   (0xC8D, 0xC8D), (0xC91, 0xC91), (0xCA9, 0xCA9), (0xCB4, 0xCB4), (0xCBA, 0xCBB), (0xCC5, 0xCC5), (0xCC9, 0xCC9),
   (0xCCE, 0xCD4), (0xCD7, 0xCDB), (0xCDF, 0xCDF), (0xCE4, 0xCE5), (0xCF0, 0xCF0), (0xCF4, 0xCFF), (0xD0D, 0xD0D),
   (0xD11, 0xD11), (0xD45, 0xD45), (0xD49, 0xD49), (0xD50, 0xD53), (0xD64, 0xD65), (0xD80, 0xD80), (0xD84, 0xD84),
   (0xD97, 0xD99), (0xDB2, 0xDB2), (0xDBC, 0xDBC), (0xDBE, 0xDBF), (0xDC7, 0xDC9), (0xDCB, 0xDCE), (0xDD5, 0xDD5),
   (0xDD7, 0xDD7), (0xDE0, 0xDE5), (0xDF0, 0xDF1), (0xDF5, 0xE00), (0xE3B, 0xE3E), (0xE5C, 0xE80), (0xE83, 0xE83),
   (0xE85, 0xE85), (0xE8B, 0xE8B), (0xEA4, 0xEA4), (0xEA6, 0xEA6), (0xEBE, 0xEBF), (0xEC5, 0xEC5), (0xEC7, 0xEC7),
   (0xECF, 0xECF), (0xEDA, 0xEDB), (0xEE0, 0xEFF), (0xF48, 0xF48), (0xF6D, 0xF70), (0xF98, 0xF98), (0xFBD, 0xFBD),
   (0xFCD, 0xFCD), (0xFDB, 0xFFF), (0x10C6, 0x10C6), (0x10C8, 0x10CC), (0x10CE, 0x10CF), (0x1249, 0x1249),
   (0x124E, 0x124F), (0x1257, 0x1257), (0x1259, 0x1259), (0x125E, 0x125F), (0x1289, 0x1289), (0x128E, 0x128F),
   (0x12B1, 0x12B1), (0x12B6, 0x12B7), (0x12BF, 0x12BF), (0x12C1, 0x12C1), (0x12C6, 0x12C7), (0x12D7, 0x12D7),
   (0x1311, 0x1311), (0x1316, 0x1317), (0x135B, 0x135C), (0x137D, 0x137F), (0x139A, 0x139F), (0x13F6, 0x13F7),
   (0x13FE, 0x13FF), (0x1680, 0x1680), (0x169D, 0x169F), (0x16F9, 0x16FF), (0x1716, 0x171E), (0x1737, 0x173F),
   (0x1754, 0x175F), (0x176D, 0x176D), (0x1771, 0x1771), (0x1774, 0x177F), (0x17DE, 0x17DF), (0x17EA, 0x17EF),
   (0x17FA, 0x17FF), (0x181A, 0x181F), (0x1879, 0x187F), (0x18AB, 0x18AF), (0x18F6, 0x18FF), (0x191F, 0x191F),
   (0x192C, 0x192F), (0x193C, 0x193F), (0x1941, 0x1943), (0x196E, 0x196F), (0x1975, 0x197F), (0x19AC, 0x19AF),
   (0x19CA, 0x19CF), (0x19DB, 0x19DD), (0x1A1C, 0x1A1D), (0x1A5F, 0x1A5F), (0x1A7D, 0x1A7E), (0x1A8A, 0x1A8F),
   (0x1A9A, 0x1A9F), (0x1AAE, 0x1AAF), (0x1ADE, 0x1ADF), (0x1AEC, 0x1AFF), (0x1B4D, 0x1B4D), (0x1BF4, 0x1BFB),
   (0x1C38, 0x1C3A), (0x1C4A, 0x1C4C), (0x1C8B, 0x1C8F), (0x1CBB, 0x1CBC), (0x1CC8, 0x1CCF), (0x1CFB, 0x1CFF),
   (0x1F16, 0x1F17), (0x1F1E, 0x1F1F), (0x1F46, 0x1F47), (0x1F4E, 0x1F4F), (0x1F58, 0x1F58), (0x1F5A, 0x1F5A),
   (0x1F5C, 0x1F5C), (0x1F5E, 0x1F5E), (0x1F7E, 0x1F7F), (0x1FB5, 0x1FB5), (0x1FC5, 0x1FC5), (0x1FD4, 0x1FD5),
   (0x1FDC, 0x1FDC), (0x1FF0, 0x1FF1), (0x1FF5, 0x1FF5), (0x1FFF, 0x1FFF), (0x200E, 0x200F), (0x2024, 0x2026),
   (0x2028, 0x202E), (0x2065, 0x2069), (0x2072, 0x2073), (0x208F, 0x208F), (0x209D, 0x209F), (0x20C2, 0x20CF),
   (0x20F1, 0x20FF), (0x218C, 0x218F), (0x242A, 0x243F), (0x244B, 0x245F), (0x2488, 0x249B), (0x2B74, 0x2B75),
   (0x2CF4, 0x2CF8), (0x2D26, 0x2D26), (0x2D28, 0x2D2C), (0x2D2E, 0x2D2F), (0x2D68, 0x2D6E), (0x2D71, 0x2D7E),
   (0x2D97, 0x2D9F), (0x2DA7, 0x2DA7), (0x2DAF, 0x2DAF), (0x2DB7, 0x2DB7), (0x2DBF, 0x2DBF), (0x2DC7, 0x2DC7),
   (0x2DCF, 0x2DCF), (0x2DD7, 0x2DD7), (0x2DDF, 0x2DDF), (0x2E5E, 0x2E7F), (0x2E9A, 0x2E9A), (0x2EF4, 0x2EFF),
   (0x2FD6, 0x2FFF), (0x3040, 0x3040), (0x3097, 0x3098), (0x3100, 0x3104), (0x3130, 0x3130), (0x318F, 0x318F),
   (0x31E6, 0x31EF), (0x321F, 0x321F), (0x33C2, 0x33C2), (0x33C7, 0x33C7), (0x33D8, 0x33D8), (0xA48D, 0xA48F),
   (0xA4C7, 0xA4CF), (0xA62C, 0xA63F), (0xA6F8, 0xA6FF), (0xA7DD, 0xA7F0), (0xA82D, 0xA82F), (0xA83A, 0xA83F),
   (0xA878, 0xA87F), (0xA8C6, 0xA8CD), (0xA8DA, 0xA8DF), (0xA954, 0xA95E), (0xA97D, 0xA97F), (0xA9CE, 0xA9CE),
   (0xA9DA, 0xA9DD), (0xA9FF, 0xA9FF), (0xAA37, 0xAA3F), (0xAA4E, 0xAA4F), (0xAA5A, 0xAA5B), (0xAAC3, 0xAADA),
   (0xAAF7, 0xAB00), (0xAB07, 0xAB08), (0xAB0F, 0xAB10), (0xAB17, 0xAB1F), (0xAB27, 0xAB27), (0xAB2F, 0xAB2F),
   (0xAB6C, 0xAB6F), (0xABEE, 0xABEF), (0xABFA, 0xABFF), (0xD7A4, 0xD7AF), (0xD7C7, 0xD7CA), (0xD7FC, 0xD7FF),
   (0xE000, 0xF8FF), (0xFA6E, 0xFA6F), (0xFADA, 0xFAFF), (0xFB07, 0xFB12), (0xFB18, 0xFB1C), (0xFB37, 0xFB37),
   (0xFB3D, 0xFB3D), (0xFB3F, 0xFB3F), (0xFB42, 0xFB42), (0xFB45, 0xFB45), (0xFDD0, 0xFDEF), (0xFE12, 0xFE12),
   (0xFE19, 0xFE1F), (0xFE30, 0xFE30), (0xFE52, 0xFE53), (0xFE67, 0xFE67), (0xFE6C, 0xFE6F), (0xFE75, 0xFE75),
   (0xFEFD, 0xFEFE), (0xFF00, 0xFF00), (0xFFBF, 0xFFC1), (0xFFC8, 0xFFC9), (0xFFD0, 0xFFD1), (0xFFD8, 0xFFD9),
   (0xFFDD, 0xFFDF), (0xFFE7, 0xFFE7), (0xFFEF, 0xFFFF), (0x1000C, 0x1000C), (0x10027, 0x10027),
   (0x1003B, 0x1003B), (0x1003E, 0x1003E), (0x1004E, 0x1004F), (0x1005E, 0x1007F), (0x100FB, 0x100FF),
   (0x10103, 0x10106), (0x10134, 0x10136), (0x1018F, 0x1018F), (0x1019D, 0x1019F), (0x101A1, 0x101CF),
   (0x101FE, 0x1027F), (0x1029D, 0x1029F), (0x102D1, 0x102DF), (0x102FC, 0x102FF), (0x10324, 0x1032C),
   (0x1034B, 0x1034F), (0x1037B, 0x1037F), (0x1039E, 0x1039E), (0x103C4, 0x103C7), (0x103D6, 0x103FF),
   (0x1049E, 0x1049F), (0x104AA, 0x104AF), (0x104D4, 0x104D7), (0x104FC, 0x104FF), (0x10528, 0x1052F),
   (0x10564, 0x1056E), (0x1057B, 0x1057B), (0x1058B, 0x1058B), (0x10593, 0x10593), (0x10596, 0x10596),
   (0x105A2, 0x105A2), (0x105B2, 0x105B2), (0x105BA, 0x105BA), (0x105BD, 0x105BF), (0x105F4, 0x105FF),
   (0x10737, 0x1073F), (0x10756, 0x1075F), (0x10768, 0x1077F), (0x10786, 0x10786), (0x107B1, 0x107B1),
   (0x107BB, 0x107FF), (0x10806, 0x10807), (0x10809, 0x10809), (0x10836, 0x10836), (0x10839, 0x1083B),
   (0x1083D, 0x1083E), (0x10856, 0x10856), (0x1089F, 0x108A6), (0x108B0, 0x108DF), (0x108F3, 0x108F3),
   (0x108F6, 0x108FA), (0x1091C, 0x1091E), (0x1093A, 0x1093E), (0x1095A, 0x1097F), (0x109B8, 0x109BB),
   (0x109D0, 0x109D1), (0x10A04, 0x10A04), (0x10A07, 0x10A0B), (0x10A14, 0x10A14), (0x10A18, 0x10A18),
   (0x10A36, 0x10A37), (0x10A3B, 0x10A3E), (0x10A49, 0x10A4F), (0x10A59, 0x10A5F), (0x10AA0, 0x10ABF),
   (0x10AE7, 0x10AEA), (0x10AF7, 0x10AFF), (0x10B36, 0x10B38), (0x10B56, 0x10B57), (0x10B73, 0x10B77),
   (0x10B92, 0x10B98), (0x10B9D, 0x10BA8), (0x10BB0, 0x10BFF), (0x10C49, 0x10C7F), (0x10CB3, 0x10CBF),
   (0x10CF3, 0x10CF9), (0x10D28, 0x10D2F), (0x10D3A, 0x10D3F), (0x10D66, 0x10D68), (0x10D86, 0x10D8D),
   (0x10D90, 0x10E5F), (0x10E7F, 0x10E7F), (0x10EAA, 0x10EAA), (0x10EAE, 0x10EAF), (0x10EB2, 0x10EC1),
   (0x10EC8, 0x10ECF), (0x10ED9, 0x10EF9), (0x10F28, 0x10F2F), (0x10F5A, 0x10F6F), (0x10F8A, 0x10FAF),
   (0x10FCC, 0x10FDF), (0x10FF7, 0x10FFF), (0x1104E, 0x11051), (0x11076, 0x1107E), (0x110BD, 0x110BD),
   (0x110C3, 0x110CF), (0x110E9, 0x110EF), (0x110FA, 0x110FF), (0x11135, 0x11135), (0x11148, 0x1114F),
   (0x11177, 0x1117F), (0x111E0, 0x111E0), (0x111F5, 0x111FF), (0x11212, 0x11212), (0x11242, 0x1127F),
   (0x11287, 0x11287), (0x11289, 0x11289), (0x1128E, 0x1128E), (0x1129E, 0x1129E), (0x112AA, 0x112AF),
   (0x112EB, 0x112EF), (0x112FA, 0x112FF), (0x11304, 0x11304), (0x1130D, 0x1130E), (0x11311, 0x11312),
   (0x11329, 0x11329), (0x11331, 0x11331), (0x11334, 0x11334), (0x1133A, 0x1133A), (0x11345, 0x11346),
   (0x11349, 0x1134A), (0x1134E, 0x1134F), (0x11351, 0x11356), (0x11358, 0x1135C), (0x11364, 0x11365),
   (0x1136D, 0x1136F), (0x11375, 0x1137F), (0x1138A, 0x1138A), (0x1138C, 0x1138D), (0x1138F, 0x1138F),
   (0x113B6, 0x113B6), (0x113C1, 0x113C1), (0x113C3, 0x113C4), (0x113C6, 0x113C6), (0x113CB, 0x113CB),
   (0x113D6, 0x113D6), (0x113D9, 0x113E0), (0x113E3, 0x113FF), (0x1145C, 0x1145C), (0x11462, 0x1147F),
   (0x114C8, 0x114CF), (0x114DA, 0x1157F), (0x115B6, 0x115B7), (0x115DE, 0x115FF), (0x11645, 0x1164F),
   (0x1165A, 0x1165F), (0x1166D, 0x1167F), (0x116BA, 0x116BF), (0x116CA, 0x116CF), (0x116E4, 0x116FF),
   (0x1171B, 0x1171C), (0x1172C, 0x1172F), (0x11747, 0x117FF), (0x1183C, 0x1189F), (0x118F3, 0x118FE),
   (0x11907, 0x11908), (0x1190A, 0x1190B), (0x11914, 0x11914), (0x11917, 0x11917), (0x11936, 0x11936),
   (0x11939, 0x1193A), (0x11947, 0x1194F), (0x1195A, 0x1199F), (0x119A8, 0x119A9), (0x119D8, 0x119D9),
   (0x119E5, 0x119FF), (0x11A48, 0x11A4F), (0x11AA3, 0x11AAF), (0x11AF9, 0x11AFF), (0x11B0A, 0x11B5F),
   (0x11B68, 0x11BBF), (0x11BE2, 0x11BEF), (0x11BFA, 0x11BFF), (0x11C09, 0x11C09), (0x11C37, 0x11C37),
   (0x11C46, 0x11C4F), (0x11C6D, 0x11C6F), (0x11C90, 0x11C91), (0x11CA8, 0x11CA8), (0x11CB7, 0x11CFF),
   (0x11D07, 0x11D07), (0x11D0A, 0x11D0A), (0x11D37, 0x11D39), (0x11D3B, 0x11D3B), (0x11D3E, 0x11D3E),
   (0x11D48, 0x11D4F), (0x11D5A, 0x11D5F), (0x11D66, 0x11D66), (0x11D69, 0x11D69), (0x11D8F, 0x11D8F),
   (0x11D92, 0x11D92), (0x11D99, 0x11D9F), (0x11DAA, 0x11DAF), (0x11DDC, 0x11DDF), (0x11DEA, 0x11EDF),
   (0x11EF9, 0x11EFF), (0x11F11, 0x11F11), (0x11F3B, 0x11F3D), (0x11F5B, 0x11FAF), (0x11FB1, 0x11FBF),
   (0x11FF2, 0x11FFE), (0x1239A, 0x123FF), (0x1246F, 0x1246F), (0x12475, 0x1247F), (0x12544, 0x12F8F),
   (0x12FF3, 0x12FFF), (0x13430, 0x1343F), (0x13456, 0x1345F), (0x143FB, 0x143FF), (0x14647, 0x160FF),
   (0x1613A, 0x167FF), (0x16A39, 0x16A3F), (0x16A5F, 0x16A5F), (0x16A6A, 0x16A6D), (0x16ABF, 0x16ABF),
   (0x16ACA, 0x16ACF), (0x16AEE, 0x16AEF), (0x16AF6, 0x16AFF), (0x16B46, 0x16B4F), (0x16B5A, 0x16B5A),
   (0x16B62, 0x16B62), (0x16B78, 0x16B7C), (0x16B90, 0x16D3F), (0x16D7A, 0x16E3F), (0x16E9B, 0x16E9F),
   (0x16EB9, 0x16EBA), (0x16ED4, 0x16EFF), (0x16F4B, 0x16F4E), (0x16F88, 0x16F8E), (0x16FA0, 0x16FDF),
   (0x16FE5, 0x16FEF), (0x16FF7, 0x16FFF), (0x18CD6, 0x18CFE), (0x18D1F, 0x18D7F), (0x18DF3, 0x1AFEF),
   (0x1AFF4, 0x1AFF4), (0x1AFFC, 0x1AFFC), (0x1AFFF, 0x1AFFF), (0x1B123, 0x1B131), (0x1B133, 0x1B14F),
   (0x1B153, 0x1B154), (0x1B156, 0x1B163), (0x1B168, 0x1B16F), (0x1B2FC, 0x1BBFF), (0x1BC6B, 0x1BC6F),
   (0x1BC7D, 0x1BC7F), (0x1BC89, 0x1BC8F), (0x1BC9A, 0x1BC9B), (0x1BCA4, 0x1CBFF), (0x1CCFD, 0x1CCFF),
   (0x1CEB4, 0x1CEB9), (0x1CED1, 0x1CEDF), (0x1CEF1, 0x1CEFF), (0x1CF2E, 0x1CF2F), (0x1CF47, 0x1CF4F),
   (0x1CFC4, 0x1CFFF), (0x1D0F6, 0x1D0FF), (0x1D127, 0x1D128), (0x1D1EB, 0x1D1FF), (0x1D246, 0x1D2BF),
   (0x1D2D4, 0x1D2DF), (0x1D2F4, 0x1D2FF), (0x1D357, 0x1D35F), (0x1D379, 0x1D3FF), (0x1D455, 0x1D455),
   (0x1D49D, 0x1D49D), (0x1D4A0, 0x1D4A1), (0x1D4A3, 0x1D4A4), (0x1D4A7, 0x1D4A8), (0x1D4AD, 0x1D4AD),
   (0x1D4BA, 0x1D4BA), (0x1D4BC, 0x1D4BC), (0x1D4C4, 0x1D4C4), (0x1D506, 0x1D506), (0x1D50B, 0x1D50C),
   (0x1D515, 0x1D515), (0x1D51D, 0x1D51D), (0x1D53A, 0x1D53A), (0x1D53F, 0x1D53F), (0x1D545, 0x1D545),
   (0x1D547, 0x1D549), (0x1D551, 0x1D551), (0x1D6A6, 0x1D6A7), (0x1D7CC, 0x1D7CD), (0x1DA8C, 0x1DA9A),
   (0x1DAA0, 0x1DAA0), (0x1DAB0, 0x1DEFF), (0x1DF1F, 0x1DF24), (0x1DF2B, 0x1DFFF), (0x1E007, 0x1E007),
   (0x1E019, 0x1E01A), (0x1E022, 0x1E022), (0x1E025, 0x1E025), (0x1E02B, 0x1E02F), (0x1E06E, 0x1E08E),
   (0x1E090, 0x1E0FF), (0x1E12D, 0x1E12F), (0x1E13E, 0x1E13F), (0x1E14A, 0x1E14D), (0x1E150, 0x1E28F),
   (0x1E2AF, 0x1E2BF), (0x1E2FA, 0x1E2FE), (0x1E300, 0x1E4CF), (0x1E4FA, 0x1E5CF), (0x1E5FB, 0x1E5FE),
   (0x1E600, 0x1E6BF), (0x1E6DF, 0x1E6DF), (0x1E6F6, 0x1E6FD), (0x1E700, 0x1E7DF), (0x1E7E7, 0x1E7E7),
   (0x1E7EC, 0x1E7EC), (0x1E7EF, 0x1E7EF), (0x1E7FF, 0x1E7FF), (0x1E8C5, 0x1E8C6), (0x1E8D7, 0x1E8FF),
   (0x1E94C, 0x1E94F), (0x1E95A, 0x1E95D), (0x1E960, 0x1EC70), (0x1ECB5, 0x1ED00), (0x1ED3E, 0x1EDFF),
   (0x1EE04, 0x1EE04), (0x1EE20, 0x1EE20), (0x1EE23, 0x1EE23), (0x1EE25, 0x1EE26), (0x1EE28, 0x1EE28),
   (0x1EE33, 0x1EE33), (0x1EE38, 0x1EE38), (0x1EE3A, 0x1EE3A), (0x1EE3C, 0x1EE41), (0x1EE43, 0x1EE46),
   (0x1EE48, 0x1EE48), (0x1EE4A, 0x1EE4A), (0x1EE4C, 0x1EE4C), (0x1EE50, 0x1EE50), (0x1EE53, 0x1EE53),
   (0x1EE55, 0x1EE56), (0x1EE58, 0x1EE58), (0x1EE5A, 0x1EE5A), (0x1EE5C, 0x1EE5C), (0x1EE5E, 0x1EE5E),
   (0x1EE60, 0x1EE60), (0x1EE63, 0x1EE63), (0x1EE65, 0x1EE66), (0x1EE6B, 0x1EE6B), (0x1EE73, 0x1EE73),
   (0x1EE78, 0x1EE78), (0x1EE7D, 0x1EE7D), (0x1EE7F, 0x1EE7F), (0x1EE8A, 0x1EE8A), (0x1EE9C, 0x1EEA0),
   (0x1EEA4, 0x1EEA4), (0x1EEAA, 0x1EEAA), (0x1EEBC, 0x1EEEF), (0x1EEF2, 0x1EFFF), (0x1F02C, 0x1F02F),
   (0x1F094, 0x1F09F), (0x1F0AF, 0x1F0B0), (0x1F0C0, 0x1F0C0), (0x1F0D0, 0x1F0D0), (0x1F0F6, 0x1F100),
   (0x1F1AE, 0x1F1E5), (0x1F203, 0x1F20F), (0x1F23C, 0x1F23F), (0x1F249, 0x1F24F), (0x1F252, 0x1F25F),
   (0x1F266, 0x1F2FF), (0x1F6D9, 0x1F6DB), (0x1F6ED, 0x1F6EF), (0x1F6FD, 0x1F6FF), (0x1F7DA, 0x1F7DF),
   (0x1F7EC, 0x1F7EF), (0x1F7F1, 0x1F7FF), (0x1F80C, 0x1F80F), (0x1F848, 0x1F84F), (0x1F85A, 0x1F85F),
   (0x1F888, 0x1F88F), (0x1F8AE, 0x1F8AF), (0x1F8BC, 0x1F8BF), (0x1F8C2, 0x1F8CF), (0x1F8D9, 0x1F8FF),
   (0x1FA58, 0x1FA5F), (0x1FA6E, 0x1FA6F), (0x1FA7D, 0x1FA7F), (0x1FA8B, 0x1FA8D), (0x1FAC7, 0x1FAC7),
   (0x1FAC9, 0x1FACC), (0x1FADD, 0x1FADE), (0x1FAEB, 0x1FAEE), (0x1FAF9, 0x1FAFF), (0x1FB93, 0x1FB93),
   (0x1FBFB, 0x1FFFF), (0x2A6E0, 0x2A6FF), (0x2B81E, 0x2B81F), (0x2CEAE, 0x2CEAF), (0x2EBE1, 0x2EBEF),
   (0x2EE5E, 0x2F7FF), (0x2FA1E, 0x2FFFF), (0x3134B, 0x3134F), (0x3347A, 0xE00FF), (0xE01F0, 0x10FFFF)]

end SchemaRelay.Url.Idna
