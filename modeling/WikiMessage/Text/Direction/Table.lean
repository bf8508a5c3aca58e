import WikiMessage.Text.CodeRange

/-! # Strongly directional characters -/

namespace WikiMessage.Text.Direction

/-- Characters written from left to right, those without an entry of their own among them. -/
def leftToRightRanges : CodeRanges :=
  [
    (0x41, 0x5a), (0x61, 0x7a), (0xaa, 0xaa), (0xb5, 0xb5), (0xba, 0xba), (0xc0, 0xd6),
    (0xd8, 0xf6), (0xf8, 0x2b8), (0x2bb, 0x2c1), (0x2d0, 0x2d1), (0x2e0, 0x2e4), (0x2ee, 0x2ee),
    (0x370, 0x373), (0x376, 0x37d), (0x37f, 0x383), (0x386, 0x386), (0x388, 0x3f5), (0x3f7, 0x482),
    (0x48a, 0x589), (0x58b, 0x58c), (0x903, 0x939), (0x93b, 0x93b), (0x93d, 0x940), (0x949, 0x94c),
    (0x94e, 0x950), (0x958, 0x961), (0x964, 0x980), (0x982, 0x9bb), (0x9bd, 0x9c0), (0x9c5, 0x9cc),
    (0x9ce, 0x9e1), (0x9e4, 0x9f1), (0x9f4, 0x9fa), (0x9fc, 0x9fd), (0x9ff, 0xa00), (0xa03, 0xa3b),
    (0xa3d, 0xa40), (0xa43, 0xa46), (0xa49, 0xa4a), (0xa4e, 0xa50), (0xa52, 0xa6f), (0xa72, 0xa74),
    (0xa76, 0xa80), (0xa83, 0xabb), (0xabd, 0xac0), (0xac6, 0xac6), (0xac9, 0xacc), (0xace, 0xae1),
    (0xae4, 0xaf0), (0xaf2, 0xaf9), (0xb00, 0xb00), (0xb02, 0xb3b), (0xb3d, 0xb3e), (0xb40, 0xb40),
    (0xb45, 0xb4c), (0xb4e, 0xb54), (0xb57, 0xb61), (0xb64, 0xb81), (0xb83, 0xbbf), (0xbc1, 0xbcc),
    (0xbce, 0xbf2), (0xbfb, 0xbff), (0xc01, 0xc03), (0xc05, 0xc3b), (0xc3d, 0xc3d), (0xc41, 0xc45),
    (0xc49, 0xc49), (0xc4e, 0xc54), (0xc57, 0xc61), (0xc64, 0xc77), (0xc7f, 0xc80), (0xc82, 0xcbb),
    (0xcbd, 0xccb), (0xcce, 0xce1), (0xce4, 0xcff), (0xd02, 0xd3a), (0xd3d, 0xd40), (0xd45, 0xd4c),
    (0xd4e, 0xd61), (0xd64, 0xd80), (0xd82, 0xdc9), (0xdcb, 0xdd1), (0xdd5, 0xdd5), (0xdd7, 0xe30),
    (0xe32, 0xe33), (0xe3b, 0xe3e), (0xe40, 0xe46), (0xe4f, 0xeb0), (0xeb2, 0xeb3), (0xebd, 0xec7),
    (0xecf, 0xf17), (0xf1a, 0xf34), (0xf36, 0xf36), (0xf38, 0xf38), (0xf3e, 0xf70), (0xf7f, 0xf7f),
    (0xf85, 0xf85), (0xf88, 0xf8c), (0xf98, 0xf98), (0xfbd, 0xfc5), (0xfc7, 0x102c),
    (0x1031, 0x1031), (0x1038, 0x1038), (0x103b, 0x103c), (0x103f, 0x1057), (0x105a, 0x105d),
    (0x1061, 0x1070), (0x1075, 0x1081), (0x1083, 0x1084), (0x1087, 0x108c), (0x108e, 0x109c),
    (0x109e, 0x135c), (0x1360, 0x138f), (0x139a, 0x13ff), (0x1401, 0x167f), (0x1681, 0x169a),
    (0x169d, 0x1711), (0x1715, 0x1731), (0x1734, 0x1751), (0x1754, 0x1771), (0x1774, 0x17b3),
    (0x17b6, 0x17b6), (0x17be, 0x17c5), (0x17c7, 0x17c8), (0x17d4, 0x17da), (0x17dc, 0x17dc),
    (0x17de, 0x17ef), (0x17fa, 0x17ff), (0x1810, 0x1884), (0x1887, 0x18a8), (0x18aa, 0x191f),
    (0x1923, 0x1926), (0x1929, 0x1931), (0x1933, 0x1938), (0x193c, 0x193f), (0x1941, 0x1943),
    (0x1946, 0x19dd), (0x1a00, 0x1a16), (0x1a19, 0x1a1a), (0x1a1c, 0x1a55), (0x1a57, 0x1a57),
    (0x1a5f, 0x1a5f), (0x1a61, 0x1a61), (0x1a63, 0x1a64), (0x1a6d, 0x1a72), (0x1a7d, 0x1a7e),
    (0x1a80, 0x1aaf), (0x1acf, 0x1aff), (0x1b04, 0x1b33), (0x1b35, 0x1b35), (0x1b3b, 0x1b3b),
    (0x1b3d, 0x1b41), (0x1b43, 0x1b6a), (0x1b74, 0x1b7f), (0x1b82, 0x1ba1), (0x1ba6, 0x1ba7),
    (0x1baa, 0x1baa), (0x1bae, 0x1be5), (0x1be7, 0x1be7), (0x1bea, 0x1bec), (0x1bee, 0x1bee),
    (0x1bf2, 0x1c2b), (0x1c34, 0x1c35), (0x1c38, 0x1ccf), (0x1cd3, 0x1cd3), (0x1ce1, 0x1ce1),
    (0x1ce9, 0x1cec), (0x1cee, 0x1cf3), (0x1cf5, 0x1cf7), (0x1cfa, 0x1dbf), (0x1e00, 0x1fbc),
    (0x1fbe, 0x1fbe), (0x1fc2, 0x1fcc), (0x1fd0, 0x1fdc), (0x1fe0, 0x1fec), (0x1ff0, 0x1ffc),
    (0x1fff, 0x1fff), (0x200e, 0x200e), (0x2065, 0x2065), (0x2071, 0x2073), (0x207f, 0x207f),
    (0x208f, 0x209f), (0x20f1, 0x20ff), (0x2102, 0x2102), (0x2107, 0x2107), (0x210a, 0x2113),
    (0x2115, 0x2115), (0x2119, 0x211d), (0x2124, 0x2124), (0x2126, 0x2126), (0x2128, 0x2128),
    (0x212a, 0x212d), (0x212f, 0x2139), (0x213c, 0x213f), (0x2145, 0x2149), (0x214e, 0x214f),
    (0x2160, 0x2188), (0x218c, 0x218f), (0x2336, 0x237a), (0x2395, 0x2395), (0x242a, 0x243f),
    (0x244b, 0x245f), (0x249c, 0x24e9), (0x26ac, 0x26ac), (0x2800, 0x28ff), (0x2b74, 0x2b75),
    (0x2b96, 0x2b96), (0x2c00, 0x2ce4), (0x2ceb, 0x2cee), (0x2cf2, 0x2cf8), (0x2d00, 0x2d7e),
    (0x2d80, 0x2ddf), (0x2e5e, 0x2e7f), (0x2e9a, 0x2e9a), (0x2ef4, 0x2eff), (0x2fd6, 0x2fef),
    (0x3005, 0x3007), (0x3021, 0x3029), (0x302e, 0x302f), (0x3031, 0x3035), (0x3038, 0x303c),
    (0x3040, 0x3098), (0x309d, 0x309f), (0x30a1, 0x30fa), (0x30fc, 0x31bf), (0x31e6, 0x31ee),
    (0x31f0, 0x321c), (0x321f, 0x324f), (0x3260, 0x327b), (0x327f, 0x32b0), (0x32c0, 0x32cb),
    (0x32d0, 0x3376), (0x337b, 0x33dd), (0x33e0, 0x33fe), (0x3400, 0x4dbf), (0x4e00, 0xa48f),
    (0xa4c7, 0xa60c), (0xa610, 0xa66e), (0xa680, 0xa69d), (0xa6a0, 0xa6ef), (0xa6f2, 0xa6ff),
    (0xa722, 0xa787), (0xa789, 0xa801), (0xa803, 0xa805), (0xa807, 0xa80a), (0xa80c, 0xa824),
    (0xa827, 0xa827), (0xa82d, 0xa837), (0xa83a, 0xa873), (0xa878, 0xa8c3), (0xa8c6, 0xa8df),
    (0xa8f2, 0xa8fe), (0xa900, 0xa925), (0xa92e, 0xa946), (0xa952, 0xa97f), (0xa983, 0xa9b2),
    (0xa9b4, 0xa9b5), (0xa9ba, 0xa9bb), (0xa9be, 0xa9e4), (0xa9e6, 0xaa28), (0xaa2f, 0xaa30),
    (0xaa33, 0xaa34), (0xaa37, 0xaa42), (0xaa44, 0xaa4b), (0xaa4d, 0xaa7b), (0xaa7d, 0xaaaf),
    (0xaab1, 0xaab1), (0xaab5, 0xaab6), (0xaab9, 0xaabd), (0xaac0, 0xaac0), (0xaac2, 0xaaeb),
    (0xaaee, 0xaaf5), (0xaaf7, 0xab69), (0xab6c, 0xabe4), (0xabe6, 0xabe7), (0xabe9, 0xabec),
    (0xabee, 0xd7ff), (0xe000, 0xfb1c), (0xfdd0, 0xfdef), (0xfe1a, 0xfe1f), (0xfe53, 0xfe53),
    (0xfe67, 0xfe67), (0xfe6c, 0xfe6f), (0xff00, 0xff00), (0xff21, 0xff3a), (0xff41, 0xff5a),
    (0xff66, 0xffdf), (0xffe7, 0xffe7), (0xffef, 0xfff8), (0xfffe, 0x10100), (0x10102, 0x1013f),
    (0x1018d, 0x1018f), (0x1019d, 0x1019f), (0x101a1, 0x101fc), (0x101fe, 0x102df),
    (0x102fc, 0x10375), (0x1037b, 0x107ff), (0x11000, 0x11000), (0x11002, 0x11037),
    (0x11047, 0x11051), (0x11066, 0x1106f), (0x11071, 0x11072), (0x11075, 0x1107e),
    (0x11082, 0x110b2), (0x110b7, 0x110b8), (0x110bb, 0x110c1), (0x110c3, 0x110ff),
    (0x11103, 0x11126), (0x1112c, 0x1112c), (0x11135, 0x11172), (0x11174, 0x1117f),
    (0x11182, 0x111b5), (0x111bf, 0x111c8), (0x111cd, 0x111ce), (0x111d0, 0x1122e),
    (0x11232, 0x11233), (0x11235, 0x11235), (0x11238, 0x1123d), (0x1123f, 0x11240),
    (0x11242, 0x112de), (0x112e0, 0x112e2), (0x112eb, 0x112ff), (0x11302, 0x1133a),
    (0x1133d, 0x1133f), (0x11341, 0x11365), (0x1136d, 0x1136f), (0x11375, 0x113ba),
    (0x113c1, 0x113cd), (0x113cf, 0x113cf), (0x113d1, 0x113d1), (0x113d3, 0x113e0),
    (0x113e3, 0x11437), (0x11440, 0x11441), (0x11445, 0x11445), (0x11447, 0x1145d),
    (0x1145f, 0x114b2), (0x114b9, 0x114b9), (0x114bb, 0x114be), (0x114c1, 0x114c1),
    (0x114c4, 0x115b1), (0x115b6, 0x115bb), (0x115be, 0x115be), (0x115c1, 0x115db),
    (0x115de, 0x11632), (0x1163b, 0x1163c), (0x1163e, 0x1163e), (0x11641, 0x1165f),
    (0x1166d, 0x116aa), (0x116ac, 0x116ac), (0x116ae, 0x116af), (0x116b6, 0x116b6),
    (0x116b8, 0x1171c), (0x1171e, 0x1171e), (0x11720, 0x11721), (0x11726, 0x11726),
    (0x1172c, 0x1182e), (0x11838, 0x11838), (0x1183b, 0x1193a), (0x1193d, 0x1193d),
    (0x1193f, 0x11942), (0x11944, 0x119d3), (0x119d8, 0x119d9), (0x119dc, 0x119df),
    (0x119e1, 0x11a00), (0x11a07, 0x11a08), (0x11a0b, 0x11a32), (0x11a39, 0x11a3a),
    (0x11a3f, 0x11a46), (0x11a48, 0x11a50), (0x11a57, 0x11a58), (0x11a5c, 0x11a89),
    (0x11a97, 0x11a97), (0x11a9a, 0x11c2f), (0x11c37, 0x11c37), (0x11c3e, 0x11c91),
    (0x11ca8, 0x11ca9), (0x11cb1, 0x11cb1), (0x11cb4, 0x11cb4), (0x11cb7, 0x11d30),
    (0x11d37, 0x11d39), (0x11d3b, 0x11d3b), (0x11d3e, 0x11d3e), (0x11d46, 0x11d46),
    (0x11d48, 0x11d8f), (0x11d92, 0x11d94), (0x11d96, 0x11d96), (0x11d98, 0x11ef2),
    (0x11ef5, 0x11eff), (0x11f02, 0x11f35), (0x11f3b, 0x11f3f), (0x11f41, 0x11f41),
    (0x11f43, 0x11f59), (0x11f5b, 0x11fd4), (0x11ff2, 0x1343f), (0x13441, 0x13446),
    (0x13456, 0x1611d), (0x1612a, 0x1612c), (0x16130, 0x16aef), (0x16af5, 0x16b2f),
    (0x16b37, 0x16f4e), (0x16f50, 0x16f8e), (0x16f93, 0x16fe1), (0x16fe3, 0x16fe3),
    (0x16fe5, 0x1bc9c), (0x1bc9f, 0x1bc9f), (0x1bca4, 0x1cbff), (0x1ccfa, 0x1ccff),
    (0x1ceb4, 0x1ceff), (0x1cf2e, 0x1cf2f), (0x1cf47, 0x1d166), (0x1d16a, 0x1d172),
    (0x1d183, 0x1d184), (0x1d18c, 0x1d1a9), (0x1d1ae, 0x1d1e8), (0x1d1eb, 0x1d1ff),
    (0x1d246, 0x1d2ff), (0x1d357, 0x1d6c0), (0x1d6c2, 0x1d6da), (0x1d6dc, 0x1d6fa),
    (0x1d6fc, 0x1d714), (0x1d716, 0x1d734), (0x1d736, 0x1d74e), (0x1d750, 0x1d76e),
    (0x1d770, 0x1d788), (0x1d78a, 0x1d7a8), (0x1d7aa, 0x1d7c2), (0x1d7c4, 0x1d7cd),
    (0x1d800, 0x1d9ff), (0x1da37, 0x1da3a), (0x1da6d, 0x1da74), (0x1da76, 0x1da83),
    (0x1da85, 0x1da9a), (0x1daa0, 0x1daa0), (0x1dab0, 0x1dfff), (0x1e007, 0x1e007),
    (0x1e019, 0x1e01a), (0x1e022, 0x1e022), (0x1e025, 0x1e025), (0x1e02b, 0x1e08e),
    (0x1e090, 0x1e12f), (0x1e137, 0x1e2ad), (0x1e2af, 0x1e2eb), (0x1e2f0, 0x1e2fe),
    (0x1e300, 0x1e4eb), (0x1e4f0, 0x1e5ed), (0x1e5f0, 0x1e7ff), (0x1f02c, 0x1f02f),
    (0x1f094, 0x1f09f), (0x1f0af, 0x1f0b0), (0x1f0c0, 0x1f0c0), (0x1f0d0, 0x1f0d0),
    (0x1f0f6, 0x1f0ff), (0x1f110, 0x1f12e), (0x1f130, 0x1f169), (0x1f170, 0x1f1ac),
    (0x1f1ae, 0x1f25f), (0x1f266, 0x1f2ff), (0x1f6d8, 0x1f6db), (0x1f6ed, 0x1f6ef),
    (0x1f6fd, 0x1f6ff), (0x1f777, 0x1f77a), (0x1f7da, 0x1f7df), (0x1f7ec, 0x1f7ef),
    (0x1f7f1, 0x1f7ff), (0x1f80c, 0x1f80f), (0x1f848, 0x1f84f), (0x1f85a, 0x1f85f),
    (0x1f888, 0x1f88f), (0x1f8ae, 0x1f8af), (0x1f8bc, 0x1f8bf), (0x1f8c2, 0x1f8ff),
    (0x1fa54, 0x1fa5f), (0x1fa6e, 0x1fa6f), (0x1fa7d, 0x1fa7f), (0x1fa8a, 0x1fa8e),
    (0x1fac7, 0x1facd), (0x1fadd, 0x1fade), (0x1faea, 0x1faef), (0x1faf9, 0x1faff),
    (0x1fb93, 0x1fb93), (0x1fbfa, 0xe0000), (0xe0002, 0xe001f), (0xe0080, 0xe00ff),
    (0xe01f0, 0x10ffff)
  ]

/-- Characters written from right to left. -/
def rightToLeftRanges : CodeRanges :=
  [
    (0x590, 0x590), (0x5be, 0x5be), (0x5c0, 0x5c0), (0x5c3, 0x5c3), (0x5c6, 0x5c6), (0x5c8, 0x5ff),
    (0x608, 0x608), (0x60b, 0x60b), (0x60d, 0x60d), (0x61b, 0x64a), (0x66d, 0x66f), (0x671, 0x6d5),
    (0x6e5, 0x6e6), (0x6ee, 0x6ef), (0x6fa, 0x710), (0x712, 0x72f), (0x74b, 0x7a5), (0x7b1, 0x7ea),
    (0x7f4, 0x7f5), (0x7fa, 0x7fc), (0x7fe, 0x815), (0x81a, 0x81a), (0x824, 0x824), (0x828, 0x828),
    (0x82e, 0x858), (0x85c, 0x88f), (0x892, 0x896), (0x8a0, 0x8c9), (0x200f, 0x200f),
    (0xfb1d, 0xfb1d), (0xfb1f, 0xfb28), (0xfb2a, 0xfd3d), (0xfd50, 0xfdce), (0xfdf0, 0xfdfc),
    (0xfe70, 0xfefe), (0x10800, 0x1091e), (0x10920, 0x10a00), (0x10a04, 0x10a04),
    (0x10a07, 0x10a0b), (0x10a10, 0x10a37), (0x10a3b, 0x10a3e), (0x10a40, 0x10ae4),
    (0x10ae7, 0x10b38), (0x10b40, 0x10d23), (0x10d28, 0x10d2f), (0x10d3a, 0x10d68),
    (0x10d6f, 0x10e5f), (0x10e7f, 0x10eaa), (0x10ead, 0x10efb), (0x10f00, 0x10f45),
    (0x10f51, 0x10f81), (0x10f86, 0x10fff), (0x1e800, 0x1e8cf), (0x1e8d7, 0x1e943),
    (0x1e94b, 0x1eeef), (0x1eef2, 0x1efff)
  ]

end WikiMessage.Text.Direction
