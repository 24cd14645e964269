import TopDown.Unicode.RangeTable

namespace TopDown.Unicode

def bidiControl : RangeTable where
  ranges := [(0x61c, 0x61c), (0x200e, 0x200f), (0x202a, 0x202e), (0x2066, 0x2069)]

def bidiMirrored : RangeTable where
  ranges :=
    [(0x28, 0x29), (0x3c, 0x3c), (0x3e, 0x3e), (0x5b, 0x5b), (0x5d, 0x5d), (0x7b, 0x7b),
    (0x7d, 0x7d), (0xab, 0xab), (0xbb, 0xbb), (0xf3a, 0xf3d), (0x169b, 0x169c), (0x2039, 0x203a),
    (0x2045, 0x2046), (0x207d, 0x207e), (0x208d, 0x208e), (0x2140, 0x2140), (0x2201, 0x2204),
    (0x2208, 0x220d), (0x2211, 0x2211), (0x2215, 0x2216), (0x221a, 0x221d), (0x221f, 0x2222),
    (0x2224, 0x2224), (0x2226, 0x2226), (0x222b, 0x2233), (0x2239, 0x2239), (0x223b, 0x224c),
    (0x2252, 0x2255), (0x225f, 0x2260), (0x2262, 0x2262), (0x2264, 0x226b), (0x226e, 0x228c),
    (0x228f, 0x2292), (0x2298, 0x2298), (0x22a2, 0x22a3), (0x22a6, 0x22b8), (0x22be, 0x22bf),
    (0x22c9, 0x22cd), (0x22d0, 0x22d1), (0x22d6, 0x22ed), (0x22f0, 0x22ff), (0x2308, 0x230b),
    (0x2320, 0x2321), (0x2329, 0x232a), (0x2768, 0x2775), (0x27c0, 0x27c0), (0x27c3, 0x27c6),
    (0x27c8, 0x27c9), (0x27cb, 0x27cd), (0x27d3, 0x27d6), (0x27dc, 0x27de), (0x27e2, 0x27ef),
    (0x2983, 0x2998), (0x299b, 0x29a0), (0x29a2, 0x29af), (0x29b8, 0x29b8), (0x29c0, 0x29c5),
    (0x29c9, 0x29c9), (0x29ce, 0x29d2), (0x29d4, 0x29d5), (0x29d8, 0x29dc), (0x29e1, 0x29e1),
    (0x29e3, 0x29e5), (0x29e8, 0x29e9), (0x29f4, 0x29f9), (0x29fc, 0x29fd), (0x2a0a, 0x2a1c),
    (0x2a1e, 0x2a21), (0x2a24, 0x2a24), (0x2a26, 0x2a26), (0x2a29, 0x2a29), (0x2a2b, 0x2a2e),
    (0x2a34, 0x2a35), (0x2a3c, 0x2a3e), (0x2a57, 0x2a58), (0x2a64, 0x2a65), (0x2a6a, 0x2a6d),
    (0x2a6f, 0x2a70), (0x2a73, 0x2a74), (0x2a79, 0x2aa3), (0x2aa6, 0x2aad), (0x2aaf, 0x2ad6),
    (0x2adc, 0x2adc), (0x2ade, 0x2ade), (0x2ae2, 0x2ae6), (0x2aec, 0x2aee), (0x2af3, 0x2af3),
    (0x2af7, 0x2afb), (0x2afd, 0x2afd), (0x2bfe, 0x2bfe), (0x2e02, 0x2e05), (0x2e09, 0x2e0a),
    (0x2e0c, 0x2e0d), (0x2e1c, 0x2e1d), (0x2e20, 0x2e29), (0x2e55, 0x2e5c), (0x3008, 0x3011),
    (0x3014, 0x301b), (0xfe59, 0xfe5e), (0xfe64, 0xfe65), (0xff08, 0xff09), (0xff1c, 0xff1c),
    (0xff1e, 0xff1e), (0xff3b, 0xff3b), (0xff3d, 0xff3d), (0xff5b, 0xff5b), (0xff5d, 0xff5d),
    (0xff5f, 0xff60), (0xff62, 0xff63), (0x1d6db, 0x1d6db), (0x1d715, 0x1d715), (0x1d74f, 0x1d74f),
    (0x1d789, 0x1d789), (0x1d7c3, 0x1d7c3)]

def otherDash : RangeTable where
  ranges := [(0x2053, 0x2053), (0x207b, 0x207b), (0x208b, 0x208b), (0x2212, 0x2212)]

def hyphen : RangeTable where
  ranges :=
    [(0x2d, 0x2d), (0xad, 0xad), (0x58a, 0x58a), (0x1806, 0x1806), (0x2010, 0x2011),
    (0x2e17, 0x2e17), (0x30fb, 0x30fb), (0xfe63, 0xfe63), (0xff0d, 0xff0d), (0xff65, 0xff65)]

def otherDefaultIgnorable : RangeTable where
  ranges :=
    [(0x34f, 0x34f), (0x115f, 0x1160), (0x17b4, 0x17b5), (0x2065, 0x2065), (0x3164, 0x3164),
    (0xffa0, 0xffa0), (0xfff0, 0xfff8), (0xe0000, 0xe0000), (0xe0002, 0xe001f), (0xe0080, 0xe00ff),
    (0xe01f0, 0xe0fff)]

/-- Format characters that are not ignored where they cannot be shown. -/
def visibleFormat : RangeTable where
  ranges := [(0xfff9, 0xfffb), (0x13430, 0x1343f)]

def deprecated : RangeTable where
  ranges :=
    [(0x149, 0x149), (0x673, 0x673), (0xf77, 0xf77), (0xf79, 0xf79), (0x17a3, 0x17a4),
    (0x206a, 0x206f), (0x2329, 0x232a), (0xe0001, 0xe0001)]

def diacritic : RangeTable where
  ranges :=
    [(0x5e, 0x5e), (0x60, 0x60), (0xa8, 0xa8), (0xaf, 0xaf), (0xb4, 0xb4), (0xb7, 0xb8),
    (0x2b0, 0x34e), (0x350, 0x357), (0x35d, 0x362), (0x374, 0x375), (0x37a, 0x37a), (0x384, 0x385),
    (0x483, 0x487), (0x559, 0x559), (0x591, 0x5a1), (0x5a3, 0x5bd), (0x5bf, 0x5bf), (0x5c1, 0x5c2),
    (0x5c4, 0x5c4), (0x64b, 0x652), (0x657, 0x658), (0x6df, 0x6e0), (0x6e5, 0x6e6), (0x6ea, 0x6ec),
    (0x730, 0x74a), (0x7a6, 0x7b0), (0x7eb, 0x7f5), (0x818, 0x819), (0x898, 0x89f), (0x8c9, 0x8d2),
    (0x8e3, 0x8fe), (0x93c, 0x93c), (0x94d, 0x94d), (0x951, 0x954), (0x971, 0x971), (0x9bc, 0x9bc),
    (0x9cd, 0x9cd), (0xa3c, 0xa3c), (0xa4d, 0xa4d), (0xabc, 0xabc), (0xacd, 0xacd), (0xafd, 0xaff),
    (0xb3c, 0xb3c), (0xb4d, 0xb4d), (0xb55, 0xb55), (0xbcd, 0xbcd), (0xc3c, 0xc3c), (0xc4d, 0xc4d),
    (0xcbc, 0xcbc), (0xccd, 0xccd), (0xd3b, 0xd3c), (0xd4d, 0xd4d), (0xdca, 0xdca), (0xe47, 0xe4c),
    (0xe4e, 0xe4e), (0xeba, 0xeba), (0xec8, 0xecc), (0xf18, 0xf19), (0xf3e, 0xf3f), (0xf82, 0xf84),
    (0xf86, 0xf87), (0xfc6, 0xfc6), (0x1037, 0x1037), (0x1039, 0x103a), (0x1063, 0x1064),
    (0x1069, 0x106d), (0x1087, 0x108d), (0x108f, 0x108f), (0x109a, 0x109b), (0x135d, 0x135f),
    (0x1714, 0x1715), (0x17c9, 0x17d3), (0x17dd, 0x17dd), (0x1939, 0x193b), (0x1a75, 0x1a7c),
    (0x1a7f, 0x1a7f), (0x1ab0, 0x1abe), (0x1ac1, 0x1acb), (0x1b34, 0x1b34), (0x1b44, 0x1b44),
    (0x1b6b, 0x1b73), (0x1baa, 0x1bab), (0x1c36, 0x1c37), (0x1c78, 0x1c7d), (0x1cd0, 0x1ce8),
    (0x1ced, 0x1ced), (0x1cf4, 0x1cf4), (0x1cf7, 0x1cf9), (0x1d2c, 0x1d6a), (0x1dc4, 0x1dcf),
    (0x1df5, 0x1dff), (0x1fbd, 0x1fbd), (0x1fbf, 0x1fc1), (0x1fcd, 0x1fcf), (0x1fdd, 0x1fdf),
    (0x1fed, 0x1fef), (0x1ffd, 0x1ffe), (0x2cef, 0x2cf1), (0x2e2f, 0x2e2f), (0x302a, 0x302f),
    (0x3099, 0x309c), (0x30fc, 0x30fc), (0xa66f, 0xa66f), (0xa67c, 0xa67d), (0xa67f, 0xa67f),
    (0xa69c, 0xa69d), (0xa6f0, 0xa6f1), (0xa700, 0xa721), (0xa788, 0xa78a), (0xa7f8, 0xa7f9),
    (0xa8c4, 0xa8c4), (0xa8e0, 0xa8f1), (0xa92b, 0xa92e), (0xa953, 0xa953), (0xa9b3, 0xa9b3),
    (0xa9c0, 0xa9c0), (0xa9e5, 0xa9e5), (0xaa7b, 0xaa7d), (0xaabf, 0xaac2), (0xaaf6, 0xaaf6),
    (0xab5b, 0xab5f), (0xab69, 0xab6b), (0xabec, 0xabed), (0xfb1e, 0xfb1e), (0xfe20, 0xfe2f),
    (0xff3e, 0xff3e), (0xff40, 0xff40), (0xff70, 0xff70), (0xff9e, 0xff9f), (0xffe3, 0xffe3),
    (0x102e0, 0x102e0), (0x10780, 0x10785), (0x10787, 0x107b0), (0x107b2, 0x107ba),
    (0x10ae5, 0x10ae6), (0x10d22, 0x10d27), (0x10efd, 0x10eff), (0x10f46, 0x10f50),
    (0x10f82, 0x10f85), (0x11046, 0x11046), (0x11070, 0x11070), (0x110b9, 0x110ba),
    (0x11133, 0x11134), (0x11173, 0x11173), (0x111c0, 0x111c0), (0x111ca, 0x111cc),
    (0x11235, 0x11236), (0x112e9, 0x112ea), (0x1133c, 0x1133c), (0x1134d, 0x1134d),
    (0x11366, 0x1136c), (0x11370, 0x11374), (0x11442, 0x11442), (0x11446, 0x11446),
    (0x114c2, 0x114c3), (0x115bf, 0x115c0), (0x1163f, 0x1163f), (0x116b6, 0x116b7),
    (0x1172b, 0x1172b), (0x11839, 0x1183a), (0x1193d, 0x1193e), (0x11943, 0x11943),
    (0x119e0, 0x119e0), (0x11a34, 0x11a34), (0x11a47, 0x11a47), (0x11a99, 0x11a99),
    (0x11c3f, 0x11c3f), (0x11d42, 0x11d42), (0x11d44, 0x11d45), (0x11d97, 0x11d97),
    (0x13447, 0x13455), (0x16af0, 0x16af4), (0x16b30, 0x16b36), (0x16f8f, 0x16f9f),
    (0x16ff0, 0x16ff1), (0x1aff0, 0x1aff3), (0x1aff5, 0x1affb), (0x1affd, 0x1affe),
    (0x1cf00, 0x1cf2d), (0x1cf30, 0x1cf46), (0x1d167, 0x1d169), (0x1d16d, 0x1d172),
    (0x1d17b, 0x1d182), (0x1d185, 0x1d18b), (0x1d1aa, 0x1d1ad), (0x1e030, 0x1e06d),
    (0x1e130, 0x1e136), (0x1e2ae, 0x1e2ae), (0x1e2ec, 0x1e2ef), (0x1e8d0, 0x1e8d6),
    (0x1e944, 0x1e946), (0x1e948, 0x1e94a)]
  alternating := [(0xf35, 0xf39)]

def extender : RangeTable where
  ranges :=
    [(0xb7, 0xb7), (0x2d0, 0x2d1), (0x640, 0x640), (0x7fa, 0x7fa), (0xb55, 0xb55), (0xe46, 0xe46),
    (0xec6, 0xec6), (0x180a, 0x180a), (0x1843, 0x1843), (0x1aa7, 0x1aa7), (0x1c36, 0x1c36),
    (0x1c7b, 0x1c7b), (0x3005, 0x3005), (0x3031, 0x3035), (0x309d, 0x309e), (0x30fc, 0x30fe),
    (0xa015, 0xa015), (0xa60c, 0xa60c), (0xa9cf, 0xa9cf), (0xa9e6, 0xa9e6), (0xaa70, 0xaa70),
    (0xaadd, 0xaadd), (0xaaf3, 0xaaf4), (0xff70, 0xff70), (0x10781, 0x10782), (0x1135d, 0x1135d),
    (0x115c6, 0x115c8), (0x11a98, 0x11a98), (0x16b42, 0x16b43), (0x16fe0, 0x16fe1),
    (0x16fe3, 0x16fe3), (0x1e13c, 0x1e13d), (0x1e944, 0x1e946)]

/-- Signs that drop the vowel of the consonant before them. -/
def virama : RangeTable where
  ranges :=
    [(0x94d, 0x94d), (0x9cd, 0x9cd), (0xa4d, 0xa4d), (0xacd, 0xacd), (0xb4d, 0xb4d), (0xbcd, 0xbcd),
    (0xc4d, 0xc4d), (0xccd, 0xccd), (0xd3b, 0xd3c), (0xd4d, 0xd4d), (0xdca, 0xdca), (0xe3a, 0xe3a),
    (0xeba, 0xeba), (0xf84, 0xf84), (0x1039, 0x103a), (0x1714, 0x1715), (0x1734, 0x1734),
    (0x17d2, 0x17d2), (0x1a60, 0x1a60), (0x1b44, 0x1b44), (0x1baa, 0x1bab), (0x1bf2, 0x1bf3),
    (0x2d7f, 0x2d7f), (0xa806, 0xa806), (0xa82c, 0xa82c), (0xa8c4, 0xa8c4), (0xa953, 0xa953),
    (0xa9c0, 0xa9c0), (0xaaf6, 0xaaf6), (0xabed, 0xabed), (0x10a3f, 0x10a3f), (0x11046, 0x11046),
    (0x11070, 0x11070), (0x1107f, 0x1107f), (0x110b9, 0x110b9), (0x11133, 0x11134),
    (0x111c0, 0x111c0), (0x11235, 0x11235), (0x112ea, 0x112ea), (0x1134d, 0x1134d),
    (0x11442, 0x11442), (0x114c2, 0x114c2), (0x115bf, 0x115bf), (0x1163f, 0x1163f),
    (0x116b6, 0x116b6), (0x1172b, 0x1172b), (0x11839, 0x11839), (0x1193d, 0x1193e),
    (0x119e0, 0x119e0), (0x11a34, 0x11a34), (0x11a47, 0x11a47), (0x11a99, 0x11a99),
    (0x11c3f, 0x11c3f), (0x11d44, 0x11d45), (0x11d97, 0x11d97), (0x11f41, 0x11f42)]

def fullwidthHexDigit : RangeTable where
  ranges := [(0xff10, 0xff19), (0xff21, 0xff26), (0xff41, 0xff46)]

def ideographic : RangeTable where
  ranges :=
    [(0x3006, 0x3007), (0x3021, 0x3029), (0x3038, 0x303a), (0x3400, 0x4dbf), (0x4e00, 0x9fff),
    (0xf900, 0xfa6d), (0xfa70, 0xfad9), (0x16fe4, 0x16fe4), (0x17000, 0x187f7), (0x18800, 0x18cd5),
    (0x18d00, 0x18d08), (0x1b170, 0x1b2fb), (0x20000, 0x2a6df), (0x2a700, 0x2b739),
    (0x2b740, 0x2b81d), (0x2b820, 0x2cea1), (0x2ceb0, 0x2ebe0), (0x2f800, 0x2fa1d),
    (0x30000, 0x3134a), (0x31350, 0x323af)]

def unifiedIdeograph : RangeTable where
  ranges :=
    [(0x3400, 0x4dbf), (0x4e00, 0x9fff), (0xfa0e, 0xfa0f), (0xfa11, 0xfa11), (0xfa13, 0xfa14),
    (0xfa1f, 0xfa1f), (0xfa21, 0xfa21), (0xfa23, 0xfa24), (0xfa27, 0xfa29), (0x20000, 0x2a6df),
    (0x2a700, 0x2b739), (0x2b740, 0x2b81d), (0x2b820, 0x2cea1), (0x2ceb0, 0x2ebe0),
    (0x30000, 0x3134a), (0x31350, 0x323af)]

def radical : RangeTable where
  ranges := [(0x2e80, 0x2e99), (0x2e9b, 0x2ef3), (0x2f00, 0x2fd5)]

def binaryDescription : RangeTable where
  ranges := [(0x2ff0, 0x2ff1), (0x2ff4, 0x2ffb)]

def ternaryDescription : RangeTable where
  ranges := [(0x2ff2, 0x2ff3)]

/-- Vowel signs that are stored before the consonant they follow in speech. -/
def logicalOrderException : RangeTable where
  ranges :=
    [(0xe40, 0xe44), (0xec0, 0xec4), (0x19b5, 0x19b7), (0x19ba, 0x19ba), (0xaab5, 0xaab6),
    (0xaab9, 0xaab9), (0xaabb, 0xaabc)]

def otherMath : RangeTable where
  ranges :=
    [(0x5e, 0x5e), (0x3d0, 0x3d2), (0x3d5, 0x3d5), (0x3f0, 0x3f1), (0x3f4, 0x3f5), (0x2016, 0x2016),
    (0x2032, 0x2034), (0x2040, 0x2040), (0x2061, 0x2064), (0x207d, 0x207e), (0x208d, 0x208e),
    (0x20d0, 0x20dc), (0x20e1, 0x20e1), (0x20e5, 0x20e6), (0x20eb, 0x20ef), (0x2102, 0x2102),
    (0x2107, 0x2107), (0x210a, 0x2113), (0x2115, 0x2115), (0x2119, 0x211d), (0x2124, 0x2124),
    (0x2128, 0x2129), (0x212c, 0x212d), (0x212f, 0x2131), (0x2133, 0x2138), (0x213c, 0x213f),
    (0x2145, 0x2149), (0x2195, 0x2199), (0x219c, 0x219f), (0x21a1, 0x21a2), (0x21a4, 0x21a5),
    (0x21a7, 0x21a7), (0x21a9, 0x21ad), (0x21b0, 0x21b1), (0x21b6, 0x21b7), (0x21bc, 0x21cd),
    (0x21d0, 0x21d1), (0x21d3, 0x21d3), (0x21d5, 0x21db), (0x21dd, 0x21dd), (0x21e4, 0x21e5),
    (0x2308, 0x230b), (0x23b4, 0x23b5), (0x23b7, 0x23b7), (0x23d0, 0x23d0), (0x23e2, 0x23e2),
    (0x25a0, 0x25a1), (0x25ae, 0x25b6), (0x25bc, 0x25c0), (0x25c6, 0x25c7), (0x25ca, 0x25cb),
    (0x25cf, 0x25d3), (0x25e2, 0x25e2), (0x25e4, 0x25e4), (0x25e7, 0x25ec), (0x2605, 0x2606),
    (0x2640, 0x2640), (0x2642, 0x2642), (0x2660, 0x2663), (0x266d, 0x266e), (0x27c5, 0x27c6),
    (0x27e6, 0x27ef), (0x2983, 0x2998), (0x29d8, 0x29db), (0x29fc, 0x29fd), (0xfe61, 0xfe61),
    (0xfe63, 0xfe63), (0xfe68, 0xfe68), (0xff3c, 0xff3c), (0xff3e, 0xff3e), (0x1d400, 0x1d454),
    (0x1d456, 0x1d49c), (0x1d49e, 0x1d49f), (0x1d4a2, 0x1d4a2), (0x1d4a5, 0x1d4a6),
    (0x1d4a9, 0x1d4ac), (0x1d4ae, 0x1d4b9), (0x1d4bb, 0x1d4bb), (0x1d4bd, 0x1d4c3),
    (0x1d4c5, 0x1d505), (0x1d507, 0x1d50a), (0x1d50d, 0x1d514), (0x1d516, 0x1d51c),
    (0x1d51e, 0x1d539), (0x1d53b, 0x1d53e), (0x1d540, 0x1d544), (0x1d546, 0x1d546),
    (0x1d54a, 0x1d550), (0x1d552, 0x1d6a5), (0x1d6a8, 0x1d6c0), (0x1d6c2, 0x1d6da),
    (0x1d6dc, 0x1d6fa), (0x1d6fc, 0x1d714), (0x1d716, 0x1d734), (0x1d736, 0x1d74e),
    (0x1d750, 0x1d76e), (0x1d770, 0x1d788), (0x1d78a, 0x1d7a8), (0x1d7aa, 0x1d7c2),
    (0x1d7c4, 0x1d7cb), (0x1d7ce, 0x1d7ff), (0x1ee00, 0x1ee03), (0x1ee05, 0x1ee1f),
    (0x1ee21, 0x1ee22), (0x1ee24, 0x1ee24), (0x1ee27, 0x1ee27), (0x1ee29, 0x1ee32),
    (0x1ee34, 0x1ee37), (0x1ee39, 0x1ee39), (0x1ee3b, 0x1ee3b), (0x1ee42, 0x1ee42),
    (0x1ee4d, 0x1ee4f), (0x1ee51, 0x1ee52), (0x1ee54, 0x1ee54), (0x1ee61, 0x1ee62),
    (0x1ee64, 0x1ee64), (0x1ee67, 0x1ee6a), (0x1ee6c, 0x1ee72), (0x1ee74, 0x1ee77),
    (0x1ee79, 0x1ee7c), (0x1ee7e, 0x1ee7e), (0x1ee80, 0x1ee89), (0x1ee8b, 0x1ee9b),
    (0x1eea1, 0x1eea3), (0x1eea5, 0x1eea9), (0x1eeab, 0x1eebb)]
  alternating := [(0x1ee47, 0x1ee4b), (0x1ee57, 0x1ee5f)]

def noncharacter : RangeTable where
  ranges :=
    [(0xfdd0, 0xfdef), (0xfffe, 0xffff), (0x1fffe, 0x1ffff), (0x2fffe, 0x2ffff), (0x3fffe, 0x3ffff),
    (0x4fffe, 0x4ffff), (0x5fffe, 0x5ffff), (0x6fffe, 0x6ffff), (0x7fffe, 0x7ffff),
    (0x8fffe, 0x8ffff), (0x9fffe, 0x9ffff), (0xafffe, 0xaffff), (0xbfffe, 0xbffff),
    (0xcfffe, 0xcffff), (0xdfffe, 0xdffff), (0xefffe, 0xeffff), (0xffffe, 0xfffff),
    (0x10fffe, 0x10ffff)]

/-- Signs that extend over the digits after them. -/
def prependedMark : RangeTable where
  ranges :=
    [(0x600, 0x605), (0x6dd, 0x6dd), (0x70f, 0x70f), (0x890, 0x891), (0x8e2, 0x8e2),
    (0x110bd, 0x110bd), (0x110cd, 0x110cd)]

def quotationMark : RangeTable where
  ranges :=
    [(0x22, 0x22), (0x27, 0x27), (0xab, 0xab), (0xbb, 0xbb), (0x2018, 0x201f), (0x2039, 0x203a),
    (0x2e42, 0x2e42), (0x300c, 0x300f), (0x301d, 0x301f), (0xfe41, 0xfe44), (0xff02, 0xff02),
    (0xff07, 0xff07), (0xff62, 0xff63)]

def sentenceEnd : RangeTable where
  ranges :=
    [(0x21, 0x21), (0x2e, 0x2e), (0x3f, 0x3f), (0x589, 0x589), (0x61d, 0x61f), (0x6d4, 0x6d4),
    (0x700, 0x702), (0x7f9, 0x7f9), (0x837, 0x837), (0x839, 0x839), (0x83d, 0x83e), (0x964, 0x965),
    (0x104a, 0x104b), (0x1362, 0x1362), (0x1367, 0x1368), (0x166e, 0x166e), (0x1735, 0x1736),
    (0x1803, 0x1803), (0x1809, 0x1809), (0x1944, 0x1945), (0x1aa8, 0x1aab), (0x1b5a, 0x1b5b),
    (0x1b5e, 0x1b5f), (0x1b7d, 0x1b7e), (0x1c3b, 0x1c3c), (0x1c7e, 0x1c7f), (0x203c, 0x203d),
    (0x2047, 0x2049), (0x2e2e, 0x2e2e), (0x2e3c, 0x2e3c), (0x2e53, 0x2e54), (0x3002, 0x3002),
    (0xa4ff, 0xa4ff), (0xa60e, 0xa60f), (0xa6f3, 0xa6f3), (0xa6f7, 0xa6f7), (0xa876, 0xa877),
    (0xa8ce, 0xa8cf), (0xa92f, 0xa92f), (0xa9c8, 0xa9c9), (0xaa5d, 0xaa5f), (0xaaf0, 0xaaf1),
    (0xabeb, 0xabeb), (0xfe52, 0xfe52), (0xfe56, 0xfe57), (0xff01, 0xff01), (0xff0e, 0xff0e),
    (0xff1f, 0xff1f), (0xff61, 0xff61), (0x10a56, 0x10a57), (0x10f55, 0x10f59), (0x10f86, 0x10f89),
    (0x11047, 0x11048), (0x110be, 0x110c1), (0x11141, 0x11143), (0x111c5, 0x111c6),
    (0x111cd, 0x111cd), (0x111de, 0x111df), (0x11238, 0x11239), (0x1123b, 0x1123c),
    (0x112a9, 0x112a9), (0x1144b, 0x1144c), (0x115c2, 0x115c3), (0x115c9, 0x115d7),
    (0x11641, 0x11642), (0x1173c, 0x1173e), (0x11944, 0x11944), (0x11946, 0x11946),
    (0x11a42, 0x11a43), (0x11a9b, 0x11a9c), (0x11c41, 0x11c42), (0x11ef7, 0x11ef8),
    (0x11f43, 0x11f44), (0x16a6e, 0x16a6f), (0x16af5, 0x16af5), (0x16b37, 0x16b38),
    (0x16b44, 0x16b44), (0x16e98, 0x16e98), (0x1bc9f, 0x1bc9f), (0x1da88, 0x1da88)]

def otherTerminal : RangeTable where
  ranges :=
    [(0x2c, 0x2c), (0x3a, 0x3b), (0x37e, 0x37e), (0x387, 0x387), (0x5c3, 0x5c3), (0x60c, 0x60c),
    (0x61b, 0x61b), (0x703, 0x70a), (0x70c, 0x70c), (0x7f8, 0x7f8), (0x830, 0x836), (0x838, 0x838),
    (0x83a, 0x83c), (0x85e, 0x85e), (0xe5a, 0xe5b), (0xf08, 0xf08), (0xf0d, 0xf12),
    (0x1361, 0x1361), (0x1363, 0x1366), (0x16eb, 0x16ed), (0x17d4, 0x17d6), (0x17da, 0x17da),
    (0x1802, 0x1802), (0x1804, 0x1805), (0x1808, 0x1808), (0x1b5d, 0x1b5d), (0x1c3d, 0x1c3f),
    (0x2e41, 0x2e41), (0x2e4c, 0x2e4c), (0x2e4e, 0x2e4f), (0x3001, 0x3001), (0xa4fe, 0xa4fe),
    (0xa60d, 0xa60d), (0xa6f4, 0xa6f6), (0xa9c7, 0xa9c7), (0xaadf, 0xaadf), (0xfe50, 0xfe51),
    (0xfe54, 0xfe55), (0xff0c, 0xff0c), (0xff1a, 0xff1b), (0xff64, 0xff64), (0x1039f, 0x1039f),
    (0x103d0, 0x103d0), (0x10857, 0x10857), (0x1091f, 0x1091f), (0x10af0, 0x10af5),
    (0x10b3a, 0x10b3f), (0x10b99, 0x10b9c), (0x11049, 0x1104d), (0x1123a, 0x1123a),
    (0x1144d, 0x1144d), (0x1145a, 0x1145b), (0x115c4, 0x115c5), (0x11aa1, 0x11aa2),
    (0x11c43, 0x11c43), (0x11c71, 0x11c71), (0x12470, 0x12474), (0x16b39, 0x16b39),
    (0x16e97, 0x16e97), (0x1da87, 0x1da87), (0x1da89, 0x1da8a)]

/-- Letters whose dot gives way to a mark above. -/
def softDotted : RangeTable where
  ranges :=
    [(0x69, 0x6a), (0x12f, 0x12f), (0x249, 0x249), (0x268, 0x268), (0x29d, 0x29d), (0x2b2, 0x2b2),
    (0x3f3, 0x3f3), (0x456, 0x456), (0x458, 0x458), (0x1d62, 0x1d62), (0x1d96, 0x1d96),
    (0x1da4, 0x1da4), (0x1da8, 0x1da8), (0x1e2d, 0x1e2d), (0x1ecb, 0x1ecb), (0x2071, 0x2071),
    (0x2148, 0x2149), (0x2c7c, 0x2c7c), (0x1d422, 0x1d423), (0x1d456, 0x1d457), (0x1d48a, 0x1d48b),
    (0x1d4be, 0x1d4bf), (0x1d4f2, 0x1d4f3), (0x1d526, 0x1d527), (0x1d55a, 0x1d55b),
    (0x1d58e, 0x1d58f), (0x1d5c2, 0x1d5c3), (0x1d5f6, 0x1d5f7), (0x1d62a, 0x1d62b),
    (0x1d65e, 0x1d65f), (0x1d692, 0x1d693), (0x1df1a, 0x1df1a), (0x1e04c, 0x1e04d),
    (0x1e068, 0x1e068)]

def variationSelector : RangeTable where
  ranges := [(0x180b, 0x180d), (0x180f, 0x180f), (0xfe00, 0xfe0f), (0xe0100, 0xe01ef)]

end TopDown.Unicode
