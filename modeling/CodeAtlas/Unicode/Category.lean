import CodeAtlas.Unicode.RangeTable

set_option autoImplicit false

/-! # General categories

The general category of a scalar value, as finely as the classes of patterns tell categories apart. -/

namespace CodeAtlas.Unicode

/-- A general category, or several that are not told apart. -/
inductive Category where
  | upperLetter
  | lowerLetter
  | otherLetter
  | letterNumber
  | digit
  | connector
  | punctuation
  | space
  /-- The separators of lines and paragraphs. -/
  | separator
  | control
  /-- Formats, surrogates, private use and what is not assigned. -/
  | unseen
  /-- Marks, symbols and the other numbers. -/
  | remaining
deriving DecidableEq

private def categoryPart1 : Array Nat := #[
  0x9, 0x207, 0x216, 0x24b, 0x256, 0x2bb, 0x2c6, 0x304, 0x3a6, 0x3cb, 0x3f6, 0x410,
  0x5b6, 0x5eb, 0x5f5, 0x60b, 0x611, 0x7b6, 0x7cb, 0x7d6, 0x7eb, 0x7f9, 0xa07, 0xa16,
  0xa2b, 0xa76, 0xa8b, 0xaa2, 0xab6, 0xacb, 0xada, 0xaeb, 0xb51, 0xb66, 0xb8b, 0xba2,
  0xbb6, 0xbcb, 0xbf6, 0xc00, 0xd7b, 0xd80, 0xdf1, 0xf7b, 0xf81, 0x1000, 0x1011, 0x1020,
  0x1031, 0x1040, 0x1051, 0x1060, 0x1071, 0x1080, 0x1091, 0x10a0, 0x10b1, 0x10c0, 0x10d1, 0x10e0,
  0x10f1, 0x1100, 0x1111, 0x1120, 0x1131, 0x1140, 0x1151, 0x1160, 0x1171, 0x1180, 0x1191, 0x11a0,
  0x11b1, 0x11c0, 0x11d1, 0x11e0, 0x11f1, 0x1200, 0x1211, 0x1220, 0x1231, 0x1240, 0x1251, 0x1260,
  0x1271, 0x1280, 0x1291, 0x12a0, 0x12b1, 0x12c0, 0x12d1, 0x12e0, 0x12f1, 0x1300, 0x1311, 0x1320,
  0x1331, 0x1340, 0x1351, 0x1360, 0x1371, 0x1390, 0x13a1, 0x13b0, 0x13c1, 0x13d0, 0x13e1, 0x13f0,
  0x1401, 0x1410, 0x1421, 0x1430, 0x1441, 0x1450, 0x1461, 0x1470, 0x1481, 0x14a0, 0x14b1, 0x14c0,
  0x14d1, 0x14e0, 0x14f1, 0x1500, 0x1511, 0x1520, 0x1531, 0x1540, 0x1551, 0x1560, 0x1571, 0x1580,
  0x1591, 0x15a0, 0x15b1, 0x15c0, 0x15d1, 0x15e0, 0x15f1, 0x1600, 0x1611, 0x1620, 0x1631, 0x1640,
  0x1651, 0x1660, 0x1671, 0x1680, 0x1691, 0x16a0, 0x16b1, 0x16c0, 0x16d1, 0x16e0, 0x16f1, 0x1700,
  0x1711, 0x1720, 0x1731, 0x1740, 0x1751, 0x1760, 0x1771, 0x1780, 0x17a1, 0x17b0, 0x17c1, 0x17d0,
  0x17e1, 0x1810, 0x1831, 0x1840, 0x1851, 0x1860, 0x1881, 0x1890, 0x18c1, 0x18e0, 0x1921, 0x1930,
  0x1951, 0x1960, 0x1991, 0x19c0, 0x19e1, 0x19f0, 0x1a11, 0x1a20, 0x1a31, 0x1a40, 0x1a51, 0x1a60,
  0x1a81, 0x1a90, 0x1aa1, 0x1ac0, 0x1ad1, 0x1ae0, 0x1b01, 0x1b10, 0x1b41, 0x1b50, 0x1b61, 0x1b70,
  0x1b91, 0x1bb2, 0x1bc0, 0x1bd1, 0x1c02, 0x1c40, 0x1c52, 0x1c61, 0x1c70, 0x1c82, 0x1c91, 0x1ca0,
  0x1cb2, 0x1cc1, 0x1cd0, 0x1ce1, 0x1cf0, 0x1d01, 0x1d10, 0x1d21, 0x1d30, 0x1d41, 0x1d50, 0x1d61,
  0x1d70, 0x1d81, 0x1d90, 0x1da1, 0x1db0, 0x1dc1, 0x1de0, 0x1df1, 0x1e00, 0x1e11, 0x1e20, 0x1e31,
  0x1e40, 0x1e51, 0x1e60, 0x1e71, 0x1e80, 0x1e91, 0x1ea0, 0x1eb1, 0x1ec0, 0x1ed1, 0x1ee0, 0x1ef1,
  0x1f10, 0x1f22, 0x1f31, 0x1f40, 0x1f51, 0x1f60, 0x1f91, 0x1fa0, 0x1fb1, 0x1fc0, 0x1fd1, 0x1fe0,
  0x1ff1, 0x2000, 0x2011, 0x2020, 0x2031, 0x2040, 0x2051, 0x2060, 0x2071, 0x2080, 0x2091, 0x20a0,
  0x20b1, 0x20c0, 0x20d1, 0x20e0, 0x20f1, 0x2100, 0x2111, 0x2120, 0x2131, 0x2140, 0x2151, 0x2160,
  0x2171, 0x2180, 0x2191, 0x21a0, 0x21b1, 0x21c0, 0x21d1, 0x21e0, 0x21f1, 0x2200, 0x2211, 0x2220,
  0x2231, 0x2240, 0x2251, 0x2260, 0x2271, 0x2280, 0x2291, 0x22a0, 0x22b1, 0x22c0, 0x22d1, 0x22e0,
  0x22f1, 0x2300, 0x2311, 0x2320, 0x2331, 0x23a0, 0x23c1, 0x23d0, 0x23f1, 0x2410, 0x2421, 0x2430,
  0x2471, 0x2480, 0x2491, 0x24a0, 0x24b1, 0x24c0, 0x24d1, 0x24e0, 0x24f1, 0x2942, 0x2961, 0x2b02,
  0x2c2b, 0x2c62, 0x2d2b, 0x2e02, 0x2e5b, 0x2ec2, 0x2edb, 0x2ee2, 0x2efb, 0x3700, 0x3711, 0x3720,
  0x3731, 0x3742, 0x375b, 0x3760, 0x3771, 0x378a, 0x37a2, 0x37b1, 0x37e6, 0x37f0, 0x380a, 0x384b,
  0x3860, 0x3876, 0x3880, 0x38ba, 0x38c0, 0x38da, 0x38e0, 0x3901, 0x3910, 0x3a2a, 0x3a30, 0x3ac1,
  0x3cf0, 0x3d01, 0x3d20, 0x3d51, 0x3d80, 0x3d91, 0x3da0, 0x3db1, 0x3dc0, 0x3dd1, 0x3de0, 0x3df1,
  0x3e00, 0x3e11, 0x3e20, 0x3e31, 0x3e40, 0x3e51, 0x3e60, 0x3e71, 0x3e80, 0x3e91, 0x3ea0, 0x3eb1,
  0x3ec0, 0x3ed1, 0x3ee0, 0x3ef1]

private def categoryPart2 : Array Nat := #[
  0x3f40, 0x3f51, 0x3f6b, 0x3f70, 0x3f81, 0x3f90, 0x3fb1, 0x3fd0, 0x4301, 0x4600, 0x4611, 0x4620,
  0x4631, 0x4640, 0x4651, 0x4660, 0x4671, 0x4680, 0x4691, 0x46a0, 0x46b1, 0x46c0, 0x46d1, 0x46e0,
  0x46f1, 0x4700, 0x4711, 0x4720, 0x4731, 0x4740, 0x4751, 0x4760, 0x4771, 0x4780, 0x4791, 0x47a0,
  0x47b1, 0x47c0, 0x47d1, 0x47e0, 0x47f1, 0x4800, 0x4811, 0x482b, 0x48a0, 0x48b1, 0x48c0, 0x48d1,
  0x48e0, 0x48f1, 0x4900, 0x4911, 0x4920, 0x4931, 0x4940, 0x4951, 0x4960, 0x4971, 0x4980, 0x4991,
  0x49a0, 0x49b1, 0x49c0, 0x49d1, 0x49e0, 0x49f1, 0x4a00, 0x4a11, 0x4a20, 0x4a31, 0x4a40, 0x4a51,
  0x4a60, 0x4a71, 0x4a80, 0x4a91, 0x4aa0, 0x4ab1, 0x4ac0, 0x4ad1, 0x4ae0, 0x4af1, 0x4b00, 0x4b11,
  0x4b20, 0x4b31, 0x4b40, 0x4b51, 0x4b60, 0x4b71, 0x4b80, 0x4b91, 0x4ba0, 0x4bb1, 0x4bc0, 0x4bd1,
  0x4be0, 0x4bf1, 0x4c00, 0x4c21, 0x4c30, 0x4c41, 0x4c50, 0x4c61, 0x4c70, 0x4c81, 0x4c90, 0x4ca1,
  0x4cb0, 0x4cc1, 0x4cd0, 0x4ce1, 0x4d00, 0x4d11, 0x4d20, 0x4d31, 0x4d40, 0x4d51, 0x4d60, 0x4d71,
  0x4d80, 0x4d91, 0x4da0, 0x4db1, 0x4dc0, 0x4dd1, 0x4de0, 0x4df1, 0x4e00, 0x4e11, 0x4e20, 0x4e31,
  0x4e40, 0x4e51, 0x4e60, 0x4e71, 0x4e80, 0x4e91, 0x4ea0, 0x4eb1, 0x4ec0, 0x4ed1, 0x4ee0, 0x4ef1,
  0x4f00, 0x4f11, 0x4f20, 0x4f31, 0x4f40, 0x4f51, 0x4f60, 0x4f71, 0x4f80, 0x4f91, 0x4fa0, 0x4fb1,
  0x4fc0, 0x4fd1, 0x4fe0, 0x4ff1, 0x5000, 0x5011, 0x5020, 0x5031, 0x5040, 0x5051, 0x5060, 0x5071,
  0x5080, 0x5091, 0x50a0, 0x50b1, 0x50c0, 0x50d1, 0x50e0, 0x50f1, 0x5100, 0x5111, 0x5120, 0x5131,
  0x5140, 0x5151, 0x5160, 0x5171, 0x5180, 0x5191, 0x51a0, 0x51b1, 0x51c0, 0x51d1, 0x51e0, 0x51f1,
  0x5200, 0x5211, 0x5220, 0x5231, 0x5240, 0x5251, 0x5260, 0x5271, 0x5280, 0x5291, 0x52a0, 0x52b1,
  0x52c0, 0x52d1, 0x52e0, 0x52f1, 0x530a, 0x5310, 0x557a, 0x5592, 0x55a6, 0x5601, 0x5896, 0x58ba,
  0x58db, 0x590a, 0x591b, 0x5be6, 0x5bfb, 0x5c06, 0x5c1b, 0x5c36, 0x5c4b, 0x5c66, 0x5c7b, 0x5c8a,
  0x5d02, 0x5eba, 0x5ef2, 0x5f36, 0x5f5a, 0x606b, 0x6096, 0x60bb, 0x60c6, 0x60eb, 0x61b6, 0x61ca,
  0x61d6, 0x6202, 0x64bb, 0x6604, 0x66a6, 0x66e2, 0x670b, 0x6712, 0x6d46, 0x6d52, 0x6d6b, 0x6dda,
  0x6deb, 0x6e52, 0x6e7b, 0x6ee2, 0x6f04, 0x6fa2, 0x6fdb, 0x6ff2, 0x7006, 0x70ea, 0x7102, 0x711b,
  0x7122, 0x730b, 0x74ba, 0x74d2, 0x7a6b, 0x7b12, 0x7b2a, 0x7c04, 0x7ca2, 0x7ebb, 0x7f42, 0x7f6b,
  0x7f76, 0x7fa2, 0x7fba, 0x7fdb, 0x8002, 0x816b, 0x81a2, 0x81bb, 0x8242, 0x825b, 0x8282, 0x829b,
  0x82ea, 0x8306, 0x83fa, 0x8402, 0x859b, 0x85ca, 0x85e6, 0x85fa, 0x8602, 0x86ba, 0x8702, 0x888b,
  0x8892, 0x890a, 0x897b, 0x8a02, 0x8cab, 0x8e2a, 0x8e3b, 0x9042, 0x93ab, 0x93d2, 0x93eb, 0x9502,
  0x951b, 0x9582, 0x962b, 0x9646, 0x9664, 0x9706, 0x9712, 0x981b, 0x984a, 0x9852, 0x98da, 0x98f2,
  0x991a, 0x9932, 0x9a9a, 0x9aa2, 0x9b1a, 0x9b22, 0x9b3a, 0x9b62, 0x9baa, 0x9bcb, 0x9bd2, 0x9beb,
  0x9c5a, 0x9c7b, 0x9c9a, 0x9cbb, 0x9ce2, 0x9cfa, 0x9d7b, 0x9d8a, 0x9dc2, 0x9dea, 0x9df2, 0x9e2b,
  0x9e4a, 0x9e64, 0x9f02, 0x9f2b, 0x9fc2, 0x9fd6, 0x9feb, 0x9ffa, 0xa01b, 0xa04a, 0xa052, 0xa0ba,
  0xa0f2, 0xa11a, 0xa132, 0xa29a, 0xa2a2, 0xa31a, 0xa322, 0xa34a, 0xa352, 0xa37a, 0xa382, 0xa3aa,
  0xa3cb, 0xa3da, 0xa3eb, 0xa43a, 0xa47b, 0xa49a, 0xa4bb, 0xa4ea, 0xa51b, 0xa52a, 0xa592, 0xa5da,
  0xa5e2, 0xa5fa, 0xa664, 0xa70b, 0xa722, 0xa75b, 0xa766, 0xa77a, 0xa81b, 0xa84a, 0xa852, 0xa8ea,
  0xa8f2, 0xa92a, 0xa932, 0xaa9a]

private def categoryPart3 : Array Nat := #[
  0xaaa2, 0xab1a, 0xab22, 0xab4a, 0xab52, 0xabaa, 0xabcb, 0xabd2, 0xabeb, 0xac6a, 0xac7b, 0xacaa,
  0xacbb, 0xacea, 0xad02, 0xad1a, 0xae02, 0xae2b, 0xae4a, 0xae64, 0xaf06, 0xaf1b, 0xaf2a, 0xaf92,
  0xafab, 0xb00a, 0xb01b, 0xb04a, 0xb052, 0xb0da, 0xb0f2, 0xb11a, 0xb132, 0xb29a, 0xb2a2, 0xb31a,
  0xb322, 0xb34a, 0xb352, 0xb3aa, 0xb3cb, 0xb3d2, 0xb3eb, 0xb45a, 0xb47b, 0xb49a, 0xb4bb, 0xb4ea,
  0xb55b, 0xb58a, 0xb5c2, 0xb5ea, 0xb5f2, 0xb62b, 0xb64a, 0xb664, 0xb70b, 0xb712, 0xb72b, 0xb78a,
  0xb82b, 0xb832, 0xb84a, 0xb852, 0xb8ba, 0xb8e2, 0xb91a, 0xb922, 0xb96a, 0xb992, 0xb9ba, 0xb9c2,
  0xb9da, 0xb9e2, 0xba0a, 0xba32, 0xba5a, 0xba82, 0xbaba, 0xbae2, 0xbbaa, 0xbbeb, 0xbc3a, 0xbc6b,
  0xbc9a, 0xbcab, 0xbcea, 0xbd02, 0xbd1a, 0xbd7b, 0xbd8a, 0xbe64, 0xbf0b, 0xbfba, 0xc00b, 0xc052,
  0xc0da, 0xc0e2, 0xc11a, 0xc122, 0xc29a, 0xc2a2, 0xc3aa, 0xc3cb, 0xc3d2, 0xc3eb, 0xc45a, 0xc46b,
  0xc49a, 0xc4ab, 0xc4ea, 0xc55b, 0xc57a, 0xc582, 0xc5ba, 0xc5c2, 0xc5ea, 0xc602, 0xc62b, 0xc64a,
  0xc664, 0xc70a, 0xc776, 0xc78b, 0xc802, 0xc81b, 0xc846, 0xc852, 0xc8da, 0xc8e2, 0xc91a, 0xc922,
  0xca9a, 0xcaa2, 0xcb4a, 0xcb52, 0xcbaa, 0xcbcb, 0xcbd2, 0xcbeb, 0xcc5a, 0xcc6b, 0xcc9a, 0xccab,
  0xccea, 0xcd5b, 0xcd7a, 0xcdc2, 0xcdfa, 0xce02, 0xce2b, 0xce4a, 0xce64, 0xcf0a, 0xcf12, 0xcf3b,
  0xcf4a, 0xd00b, 0xd042, 0xd0da, 0xd0e2, 0xd11a, 0xd122, 0xd3bb, 0xd3d2, 0xd3eb, 0xd45a, 0xd46b,
  0xd49a, 0xd4ab, 0xd4e2, 0xd4fb, 0xd50a, 0xd542, 0xd57b, 0xd5f2, 0xd62b, 0xd64a, 0xd664, 0xd70b,
  0xd7a2, 0xd80a, 0xd81b, 0xd84a, 0xd852, 0xd97a, 0xd9a2, 0xdb2a, 0xdb32, 0xdbca, 0xdbd2, 0xdbea,
  0xdc02, 0xdc7a, 0xdcab, 0xdcba, 0xdcfb, 0xdd5a, 0xdd6b, 0xdd7a, 0xdd8b, 0xde0a, 0xde64, 0xdf0a,
  0xdf2b, 0xdf46, 0xdf5a, 0xe012, 0xe31b, 0xe322, 0xe34b, 0xe3ba, 0xe3fb, 0xe402, 0xe47b, 0xe4f6,
  0xe504, 0xe5a6, 0xe5ca, 0xe812, 0xe83a, 0xe842, 0xe85a, 0xe862, 0xe8ba, 0xe8c2, 0xea4a, 0xea52,
  0xea6a, 0xea72, 0xeb1b, 0xeb22, 0xeb4b, 0xebd2, 0xebea, 0xec02, 0xec5a, 0xec62, 0xec7a, 0xec8b,
  0xecfa, 0xed04, 0xedaa, 0xedc2, 0xee0a, 0xf002, 0xf01b, 0xf046, 0xf13b, 0xf146, 0xf15b, 0xf204,
  0xf2ab, 0xf3a6, 0xf3eb, 0xf402, 0xf48a, 0xf492, 0xf6da, 0xf71b, 0xf856, 0xf86b, 0xf882, 0xf8db,
  0xf98a, 0xf99b, 0xfbda, 0xfbeb, 0xfcda, 0xfceb, 0xfd06, 0xfd5b, 0xfd96, 0xfdba, 0x10002, 0x102bb,
  0x103f2, 0x10404, 0x104a6, 0x10502, 0x1056b, 0x105a2, 0x105eb, 0x10612, 0x1062b, 0x10652, 0x1067b, 0x106e2,
  0x1071b, 0x10752, 0x1082b, 0x108e2, 0x108fb, 0x10904, 0x109ab, 0x10a00, 0x10c6a, 0x10c70, 0x10c8a, 0x10cd0,
  0x10cea, 0x10d01, 0x10fb6, 0x10fc2, 0x10fd1, 0x11002, 0x1249a, 0x124a2, 0x124ea, 0x12502, 0x1257a, 0x12582,
  0x1259a, 0x125a2, 0x125ea, 0x12602, 0x1289a, 0x128a2, 0x128ea, 0x12902, 0x12b1a, 0x12b22, 0x12b6a, 0x12b82,
  0x12bfa, 0x12c02, 0x12c1a, 0x12c22, 0x12c6a, 0x12c82, 0x12d7a, 0x12d82, 0x1311a, 0x13122, 0x1316a, 0x13182,
  0x135ba, 0x135db, 0x13606, 0x1369b, 0x137da, 0x13802, 0x1390b, 0x139aa, 0x13a00, 0x13f6a, 0x13f81, 0x13fea,
  0x14006, 0x14012, 0x166db, 0x166e6, 0x166f2, 0x16807, 0x16812, 0x169b6, 0x169da, 0x16a02, 0x16eb6, 0x16ee3,
  0x16f12, 0x16f9a, 0x17002, 0x1712b, 0x1716a, 0x171f2, 0x1732b, 0x17356, 0x1737a, 0x17402, 0x1752b, 0x1754a,
  0x17602, 0x176da, 0x176e2, 0x1771a, 0x1772b, 0x1774a, 0x17802, 0x17b4b, 0x17d46, 0x17d72, 0x17d86, 0x17dbb,
  0x17dc2, 0x17ddb, 0x17dea, 0x17e04, 0x17eaa, 0x17f0b, 0x17faa, 0x18006, 0x180bb, 0x180ea, 0x180fb, 0x18104,
  0x181aa, 0x18202, 0x1879a, 0x18802]

private def categoryPart4 : Array Nat := #[
  0x1885b, 0x18872, 0x18a9b, 0x18aa2, 0x18aba, 0x18b02, 0x18f6a, 0x19002, 0x191fa, 0x1920b, 0x192ca, 0x1930b,
  0x193ca, 0x1940b, 0x1941a, 0x19446, 0x19464, 0x19502, 0x196ea, 0x19702, 0x1975a, 0x19802, 0x19aca, 0x19b02,
  0x19caa, 0x19d04, 0x19dab, 0x19dba, 0x19deb, 0x1a002, 0x1a17b, 0x1a1ca, 0x1a1e6, 0x1a202, 0x1a55b, 0x1a5fa,
  0x1a60b, 0x1a7da, 0x1a7fb, 0x1a804, 0x1a8aa, 0x1a904, 0x1a9aa, 0x1aa06, 0x1aa72, 0x1aa86, 0x1aaea, 0x1ab0b,
  0x1adea, 0x1ae0b, 0x1aeca, 0x1b00b, 0x1b052, 0x1b34b, 0x1b452, 0x1b4da, 0x1b4e6, 0x1b504, 0x1b5a6, 0x1b61b,
  0x1b7d6, 0x1b80b, 0x1b832, 0x1ba1b, 0x1bae2, 0x1bb04, 0x1bba2, 0x1be6b, 0x1bf4a, 0x1bfc6, 0x1c002, 0x1c24b,
  0x1c38a, 0x1c3b6, 0x1c404, 0x1c4aa, 0x1c4d2, 0x1c504, 0x1c5a2, 0x1c7e6, 0x1c801, 0x1c890, 0x1c8a1, 0x1c8ba,
  0x1c900, 0x1cbba, 0x1cbd0, 0x1cc06, 0x1cc8a, 0x1cd0b, 0x1cd36, 0x1cd4b, 0x1ce92, 0x1cedb, 0x1cee2, 0x1cf4b,
  0x1cf52, 0x1cf7b, 0x1cfa2, 0x1cfba, 0x1d001, 0x1d2c2, 0x1d6b1, 0x1d782, 0x1d791, 0x1d9b2, 0x1dc0b, 0x1e000,
  0x1e011, 0x1e020, 0x1e031, 0x1e040, 0x1e051, 0x1e060, 0x1e071, 0x1e080, 0x1e091, 0x1e0a0, 0x1e0b1, 0x1e0c0,
  0x1e0d1, 0x1e0e0, 0x1e0f1, 0x1e100, 0x1e111, 0x1e120, 0x1e131, 0x1e140, 0x1e151, 0x1e160, 0x1e171, 0x1e180,
  0x1e191, 0x1e1a0, 0x1e1b1, 0x1e1c0, 0x1e1d1, 0x1e1e0, 0x1e1f1, 0x1e200, 0x1e211, 0x1e220, 0x1e231, 0x1e240,
  0x1e251, 0x1e260, 0x1e271, 0x1e280, 0x1e291, 0x1e2a0, 0x1e2b1, 0x1e2c0, 0x1e2d1, 0x1e2e0, 0x1e2f1, 0x1e300,
  0x1e311, 0x1e320, 0x1e331, 0x1e340, 0x1e351, 0x1e360, 0x1e371, 0x1e380, 0x1e391, 0x1e3a0, 0x1e3b1, 0x1e3c0,
  0x1e3d1, 0x1e3e0, 0x1e3f1, 0x1e400, 0x1e411, 0x1e420, 0x1e431, 0x1e440, 0x1e451, 0x1e460, 0x1e471, 0x1e480,
  0x1e491, 0x1e4a0, 0x1e4b1, 0x1e4c0, 0x1e4d1, 0x1e4e0, 0x1e4f1, 0x1e500, 0x1e511, 0x1e520, 0x1e531, 0x1e540,
  0x1e551, 0x1e560, 0x1e571, 0x1e580, 0x1e591, 0x1e5a0, 0x1e5b1, 0x1e5c0, 0x1e5d1, 0x1e5e0, 0x1e5f1, 0x1e600,
  0x1e611, 0x1e620, 0x1e631, 0x1e640, 0x1e651, 0x1e660, 0x1e671, 0x1e680, 0x1e691, 0x1e6a0, 0x1e6b1, 0x1e6c0,
  0x1e6d1, 0x1e6e0, 0x1e6f1, 0x1e700, 0x1e711, 0x1e720, 0x1e731, 0x1e740, 0x1e751, 0x1e760, 0x1e771, 0x1e780,
  0x1e791, 0x1e7a0, 0x1e7b1, 0x1e7c0, 0x1e7d1, 0x1e7e0, 0x1e7f1, 0x1e800, 0x1e811, 0x1e820, 0x1e831, 0x1e840,
  0x1e851, 0x1e860, 0x1e871, 0x1e880, 0x1e891, 0x1e8a0, 0x1e8b1, 0x1e8c0, 0x1e8d1, 0x1e8e0, 0x1e8f1, 0x1e900,
  0x1e911, 0x1e920, 0x1e931, 0x1e940, 0x1e951, 0x1e9e0, 0x1e9f1, 0x1ea00, 0x1ea11, 0x1ea20, 0x1ea31, 0x1ea40,
  0x1ea51, 0x1ea60, 0x1ea71, 0x1ea80, 0x1ea91, 0x1eaa0, 0x1eab1, 0x1eac0, 0x1ead1, 0x1eae0, 0x1eaf1, 0x1eb00,
  0x1eb11, 0x1eb20, 0x1eb31, 0x1eb40, 0x1eb51, 0x1eb60, 0x1eb71, 0x1eb80, 0x1eb91, 0x1eba0, 0x1ebb1, 0x1ebc0,
  0x1ebd1, 0x1ebe0, 0x1ebf1, 0x1ec00, 0x1ec11, 0x1ec20, 0x1ec31, 0x1ec40, 0x1ec51, 0x1ec60, 0x1ec71, 0x1ec80,
  0x1ec91, 0x1eca0, 0x1ecb1, 0x1ecc0, 0x1ecd1, 0x1ece0, 0x1ecf1, 0x1ed00, 0x1ed11, 0x1ed20, 0x1ed31, 0x1ed40,
  0x1ed51, 0x1ed60, 0x1ed71, 0x1ed80, 0x1ed91, 0x1eda0, 0x1edb1, 0x1edc0, 0x1edd1, 0x1ede0, 0x1edf1, 0x1ee00,
  0x1ee11, 0x1ee20, 0x1ee31, 0x1ee40, 0x1ee51, 0x1ee60, 0x1ee71, 0x1ee80, 0x1ee91, 0x1eea0, 0x1eeb1, 0x1eec0,
  0x1eed1, 0x1eee0, 0x1eef1, 0x1ef00, 0x1ef11, 0x1ef20, 0x1ef31, 0x1ef40, 0x1ef51, 0x1ef60, 0x1ef71, 0x1ef80,
  0x1ef91, 0x1efa0, 0x1efb1, 0x1efc0, 0x1efd1, 0x1efe0, 0x1eff1, 0x1f080, 0x1f101, 0x1f16a, 0x1f180, 0x1f1ea,
  0x1f201, 0x1f280, 0x1f301, 0x1f380, 0x1f401, 0x1f46a, 0x1f480, 0x1f4ea, 0x1f501, 0x1f58a, 0x1f590, 0x1f5aa,
  0x1f5b0, 0x1f5ca, 0x1f5d0, 0x1f5ea, 0x1f5f0, 0x1f601, 0x1f680, 0x1f701, 0x1f7ea, 0x1f801, 0x1f882, 0x1f901,
  0x1f982, 0x1fa01, 0x1fa82, 0x1fb01, 0x1fb5a, 0x1fb61, 0x1fb80, 0x1fbc2, 0x1fbdb, 0x1fbe1, 0x1fbfb, 0x1fc21,
  0x1fc5a, 0x1fc61, 0x1fc80, 0x1fcc2]

private def categoryPart5 : Array Nat := #[
  0x1fcdb, 0x1fd01, 0x1fd4a, 0x1fd61, 0x1fd80, 0x1fdca, 0x1fddb, 0x1fe01, 0x1fe80, 0x1fedb, 0x1ff0a, 0x1ff21,
  0x1ff5a, 0x1ff61, 0x1ff80, 0x1ffc2, 0x1ffdb, 0x1fffa, 0x20007, 0x200ba, 0x20106, 0x20288, 0x202aa, 0x202f7,
  0x20306, 0x203f5, 0x20416, 0x2044b, 0x20456, 0x2052b, 0x20536, 0x20545, 0x20556, 0x205f7, 0x2060a, 0x2070b,
  0x20712, 0x2072a, 0x2074b, 0x207d6, 0x207f2, 0x2080b, 0x208d6, 0x208fa, 0x20902, 0x209da, 0x20a0b, 0x20c2a,
  0x20d0b, 0x20f1a, 0x2100b, 0x21020, 0x2103b, 0x21070, 0x2108b, 0x210a1, 0x210b0, 0x210e1, 0x21100, 0x21131,
  0x2114b, 0x21150, 0x2116b, 0x21190, 0x211eb, 0x21240, 0x2125b, 0x21260, 0x2127b, 0x21280, 0x2129b, 0x212a0,
  0x212eb, 0x212f1, 0x21300, 0x21341, 0x21352, 0x21391, 0x213ab, 0x213c1, 0x213e0, 0x2140b, 0x21450, 0x21461,
  0x214ab, 0x214e1, 0x214fb, 0x21603, 0x21830, 0x21841, 0x21853, 0x2189b, 0x218ca, 0x2190b, 0x23086, 0x230cb,
  0x23296, 0x232bb, 0x242aa, 0x2440b, 0x244ba, 0x2460b, 0x27686, 0x2776b, 0x27c56, 0x27c7b, 0x27e66, 0x27f0b,
  0x29836, 0x2999b, 0x29d86, 0x29dcb, 0x29fc6, 0x29feb, 0x2b74a, 0x2b76b, 0x2c000, 0x2c301, 0x2c600, 0x2c611,
  0x2c620, 0x2c651, 0x2c670, 0x2c681, 0x2c690, 0x2c6a1, 0x2c6b0, 0x2c6c1, 0x2c6d0, 0x2c711, 0x2c720, 0x2c731,
  0x2c750, 0x2c761, 0x2c7c2, 0x2c7e0, 0x2c811, 0x2c820, 0x2c831, 0x2c840, 0x2c851, 0x2c860, 0x2c871, 0x2c880,
  0x2c891, 0x2c8a0, 0x2c8b1, 0x2c8c0, 0x2c8d1, 0x2c8e0, 0x2c8f1, 0x2c900, 0x2c911, 0x2c920, 0x2c931, 0x2c940,
  0x2c951, 0x2c960, 0x2c971, 0x2c980, 0x2c991, 0x2c9a0, 0x2c9b1, 0x2c9c0, 0x2c9d1, 0x2c9e0, 0x2c9f1, 0x2ca00,
  0x2ca11, 0x2ca20, 0x2ca31, 0x2ca40, 0x2ca51, 0x2ca60, 0x2ca71, 0x2ca80, 0x2ca91, 0x2caa0, 0x2cab1, 0x2cac0,
  0x2cad1, 0x2cae0, 0x2caf1, 0x2cb00, 0x2cb11, 0x2cb20, 0x2cb31, 0x2cb40, 0x2cb51, 0x2cb60, 0x2cb71, 0x2cb80,
  0x2cb91, 0x2cba0, 0x2cbb1, 0x2cbc0, 0x2cbd1, 0x2cbe0, 0x2cbf1, 0x2cc00, 0x2cc11, 0x2cc20, 0x2cc31, 0x2cc40,
  0x2cc51, 0x2cc60, 0x2cc71, 0x2cc80, 0x2cc91, 0x2cca0, 0x2ccb1, 0x2ccc0, 0x2ccd1, 0x2cce0, 0x2ccf1, 0x2cd00,
  0x2cd11, 0x2cd20, 0x2cd31, 0x2cd40, 0x2cd51, 0x2cd60, 0x2cd71, 0x2cd80, 0x2cd91, 0x2cda0, 0x2cdb1, 0x2cdc0,
  0x2cdd1, 0x2cde0, 0x2cdf1, 0x2ce00, 0x2ce11, 0x2ce20, 0x2ce31, 0x2ce5b, 0x2ceb0, 0x2cec1, 0x2ced0, 0x2cee1,
  0x2cefb, 0x2cf20, 0x2cf31, 0x2cf4a, 0x2cf96, 0x2cfdb, 0x2cfe6, 0x2d001, 0x2d26a, 0x2d271, 0x2d28a, 0x2d2d1,
  0x2d2ea, 0x2d302, 0x2d68a, 0x2d6f2, 0x2d706, 0x2d71a, 0x2d7fb, 0x2d802, 0x2d97a, 0x2da02, 0x2da7a, 0x2da82,
  0x2dafa, 0x2db02, 0x2db7a, 0x2db82, 0x2dbfa, 0x2dc02, 0x2dc7a, 0x2dc82, 0x2dcfa, 0x2dd02, 0x2dd7a, 0x2dd82,
  0x2ddfa, 0x2de0b, 0x2e006, 0x2e2f2, 0x2e306, 0x2e50b, 0x2e526, 0x2e5ea, 0x2e80b, 0x2e9aa, 0x2e9bb, 0x2ef4a,
  0x2f00b, 0x2fd6a, 0x2ff0b, 0x30007, 0x30016, 0x3004b, 0x30052, 0x30073, 0x30086, 0x3012b, 0x30146, 0x3020b,
  0x30213, 0x302ab, 0x30306, 0x30312, 0x3036b, 0x30383, 0x303b2, 0x303d6, 0x303eb, 0x3040a, 0x30412, 0x3097a,
  0x3099b, 0x309d2, 0x30a06, 0x30a12, 0x30fb6, 0x30fc2, 0x3100a, 0x31052, 0x3130a, 0x31312, 0x318fa, 0x3190b,
  0x31a02, 0x31c0b, 0x31e6a, 0x31efb, 0x31f02, 0x3200b, 0x321fa, 0x3220b, 0x34002, 0x4dc0b, 0x4e002, 0xa48da,
  0xa490b, 0xa4c7a, 0xa4d02, 0xa4fe6, 0xa5002, 0xa60d6, 0xa6102, 0xa6204, 0xa62a2, 0xa62ca, 0xa6400, 0xa6411,
  0xa6420, 0xa6431, 0xa6440, 0xa6451, 0xa6460, 0xa6471, 0xa6480, 0xa6491, 0xa64a0, 0xa64b1, 0xa64c0, 0xa64d1,
  0xa64e0, 0xa64f1, 0xa6500, 0xa6511, 0xa6520, 0xa6531, 0xa6540, 0xa6551, 0xa6560, 0xa6571, 0xa6580, 0xa6591,
  0xa65a0, 0xa65b1, 0xa65c0, 0xa65d1, 0xa65e0, 0xa65f1, 0xa6600, 0xa6611, 0xa6620, 0xa6631, 0xa6640, 0xa6651,
  0xa6660, 0xa6671, 0xa6680, 0xa6691, 0xa66a0, 0xa66b1, 0xa66c0, 0xa66d1, 0xa66e2, 0xa66fb, 0xa6736, 0xa674b,
  0xa67e6, 0xa67f2, 0xa6800, 0xa6811]

private def categoryPart6 : Array Nat := #[
  0xa6820, 0xa6831, 0xa6840, 0xa6851, 0xa6860, 0xa6871, 0xa6880, 0xa6891, 0xa68a0, 0xa68b1, 0xa68c0, 0xa68d1,
  0xa68e0, 0xa68f1, 0xa6900, 0xa6911, 0xa6920, 0xa6931, 0xa6940, 0xa6951, 0xa6960, 0xa6971, 0xa6980, 0xa6991,
  0xa69a0, 0xa69b1, 0xa69c2, 0xa69eb, 0xa6a02, 0xa6e63, 0xa6f0b, 0xa6f26, 0xa6f8a, 0xa700b, 0xa7172, 0xa720b,
  0xa7220, 0xa7231, 0xa7240, 0xa7251, 0xa7260, 0xa7271, 0xa7280, 0xa7291, 0xa72a0, 0xa72b1, 0xa72c0, 0xa72d1,
  0xa72e0, 0xa72f1, 0xa7320, 0xa7331, 0xa7340, 0xa7351, 0xa7360, 0xa7371, 0xa7380, 0xa7391, 0xa73a0, 0xa73b1,
  0xa73c0, 0xa73d1, 0xa73e0, 0xa73f1, 0xa7400, 0xa7411, 0xa7420, 0xa7431, 0xa7440, 0xa7451, 0xa7460, 0xa7471,
  0xa7480, 0xa7491, 0xa74a0, 0xa74b1, 0xa74c0, 0xa74d1, 0xa74e0, 0xa74f1, 0xa7500, 0xa7511, 0xa7520, 0xa7531,
  0xa7540, 0xa7551, 0xa7560, 0xa7571, 0xa7580, 0xa7591, 0xa75a0, 0xa75b1, 0xa75c0, 0xa75d1, 0xa75e0, 0xa75f1,
  0xa7600, 0xa7611, 0xa7620, 0xa7631, 0xa7640, 0xa7651, 0xa7660, 0xa7671, 0xa7680, 0xa7691, 0xa76a0, 0xa76b1,
  0xa76c0, 0xa76d1, 0xa76e0, 0xa76f1, 0xa7702, 0xa7711, 0xa7790, 0xa77a1, 0xa77b0, 0xa77c1, 0xa77d0, 0xa77f1,
  0xa7800, 0xa7811, 0xa7820, 0xa7831, 0xa7840, 0xa7851, 0xa7860, 0xa7871, 0xa7882, 0xa789b, 0xa78b0, 0xa78c1,
  0xa78d0, 0xa78e1, 0xa78f2, 0xa7900, 0xa7911, 0xa7920, 0xa7931, 0xa7960, 0xa7971, 0xa7980, 0xa7991, 0xa79a0,
  0xa79b1, 0xa79c0, 0xa79d1, 0xa79e0, 0xa79f1, 0xa7a00, 0xa7a11, 0xa7a20, 0xa7a31, 0xa7a40, 0xa7a51, 0xa7a60,
  0xa7a71, 0xa7a80, 0xa7a91, 0xa7aa0, 0xa7af1, 0xa7b00, 0xa7b51, 0xa7b60, 0xa7b71, 0xa7b80, 0xa7b91, 0xa7ba0,
  0xa7bb1, 0xa7bc0, 0xa7bd1, 0xa7be0, 0xa7bf1, 0xa7c00, 0xa7c11, 0xa7c20, 0xa7c31, 0xa7c40, 0xa7c81, 0xa7c90,
  0xa7ca1, 0xa7cb0, 0xa7cd1, 0xa7ce0, 0xa7cf1, 0xa7d00, 0xa7d11, 0xa7d20, 0xa7d31, 0xa7d40, 0xa7d51, 0xa7d60,
  0xa7d71, 0xa7d80, 0xa7d91, 0xa7da0, 0xa7db1, 0xa7dc0, 0xa7dda, 0xa7f12, 0xa7f50, 0xa7f61, 0xa7f72, 0xa7fa1,
  0xa7fb2, 0xa802b, 0xa8032, 0xa806b, 0xa8072, 0xa80bb, 0xa80c2, 0xa823b, 0xa82da, 0xa830b, 0xa83aa, 0xa8402,
  0xa8746, 0xa878a, 0xa880b, 0xa8822, 0xa8b4b, 0xa8c6a, 0xa8ce6, 0xa8d04, 0xa8daa, 0xa8e0b, 0xa8f22, 0xa8f86,
  0xa8fb2, 0xa8fc6, 0xa8fd2, 0xa8ffb, 0xa9004, 0xa90a2, 0xa926b, 0xa92e6, 0xa9302, 0xa947b, 0xa954a, 0xa95f6,
  0xa9602, 0xa97da, 0xa980b, 0xa9842, 0xa9b3b, 0xa9c16, 0xa9cea, 0xa9cf2, 0xa9d04, 0xa9daa, 0xa9de6, 0xa9e02,
  0xa9e5b, 0xa9e62, 0xa9f04, 0xa9fa2, 0xa9ffa, 0xaa002, 0xaa29b, 0xaa37a, 0xaa402, 0xaa43b, 0xaa442, 0xaa4cb,
  0xaa4ea, 0xaa504, 0xaa5aa, 0xaa5c6, 0xaa602, 0xaa77b, 0xaa7a2, 0xaa7bb, 0xaa7e2, 0xaab0b, 0xaab12, 0xaab2b,
  0xaab52, 0xaab7b, 0xaab92, 0xaabeb, 0xaac02, 0xaac1b, 0xaac22, 0xaac3a, 0xaadb2, 0xaade6, 0xaae02, 0xaaebb,
  0xaaf06, 0xaaf22, 0xaaf5b, 0xaaf7a, 0xab012, 0xab07a, 0xab092, 0xab0fa, 0xab112, 0xab17a, 0xab202, 0xab27a,
  0xab282, 0xab2fa, 0xab301, 0xab5bb, 0xab5c2, 0xab601, 0xab692, 0xab6ab, 0xab6ca, 0xab701, 0xabc02, 0xabe3b,
  0xabeb6, 0xabecb, 0xabeea, 0xabf04, 0xabfaa, 0xac002, 0xd7a4a, 0xd7b02, 0xd7c7a, 0xd7cb2, 0xd7fca, 0xf9002,
  0xfa6ea, 0xfa702, 0xfadaa, 0xfb001, 0xfb07a, 0xfb131, 0xfb18a, 0xfb1d2, 0xfb1eb, 0xfb1f2, 0xfb29b, 0xfb2a2,
  0xfb37a, 0xfb382, 0xfb3da, 0xfb3e2, 0xfb3fa, 0xfb402, 0xfb42a, 0xfb432, 0xfb45a, 0xfb462, 0xfbb2b, 0xfbd32,
  0xfd3e6, 0xfd40b, 0xfd502, 0xfd90b, 0xfd922, 0xfdc8b, 0xfdd0a, 0xfdf02, 0xfdfcb, 0xfe106, 0xfe1aa, 0xfe20b,
  0xfe306, 0xfe335, 0xfe356, 0xfe4d5, 0xfe506, 0xfe53a, 0xfe546, 0xfe62b, 0xfe636, 0xfe64b, 0xfe67a, 0xfe686,
  0xfe69b, 0xfe6a6, 0xfe6ca, 0xfe702, 0xfe75a, 0xfe762, 0xfefda, 0xff016, 0xff04b, 0xff056, 0xff0bb, 0xff0c6,
  0xff104, 0xff1a6, 0xff1cb, 0xff1f6, 0xff210, 0xff3b6, 0xff3eb, 0xff3f5, 0xff40b, 0xff411, 0xff5b6, 0xff5cb,
  0xff5d6, 0xff5eb, 0xff5f6, 0xff662]

private def categoryPart7 : Array Nat := #[
  0xffbfa, 0xffc22, 0xffc8a, 0xffca2, 0xffd0a, 0xffd22, 0xffd8a, 0xffda2, 0xffdda, 0xffe0b, 0xffe7a, 0xffe8b,
  0xffefa, 0xfffcb, 0xfffea, 0x100002, 0x1000ca, 0x1000d2, 0x10027a, 0x100282, 0x1003ba, 0x1003c2, 0x1003ea, 0x1003f2,
  0x1004ea, 0x100502, 0x1005ea, 0x100802, 0x100fba, 0x101006, 0x10103a, 0x10107b, 0x10134a, 0x10137b, 0x101403, 0x10175b,
  0x1018fa, 0x10190b, 0x1019da, 0x101a0b, 0x101a1a, 0x101d0b, 0x101fea, 0x102802, 0x1029da, 0x102a02, 0x102d1a, 0x102e0b,
  0x102fca, 0x103002, 0x10320b, 0x10324a, 0x1032d2, 0x103413, 0x103422, 0x1034a3, 0x1034ba, 0x103502, 0x10376b, 0x1037ba,
  0x103802, 0x1039ea, 0x1039f6, 0x103a02, 0x103c4a, 0x103c82, 0x103d06, 0x103d13, 0x103d6a, 0x104000, 0x104281, 0x104502,
  0x1049ea, 0x104a04, 0x104aaa, 0x104b00, 0x104d4a, 0x104d81, 0x104fca, 0x105002, 0x10528a, 0x105302, 0x10564a, 0x1056f6,
  0x105700, 0x1057ba, 0x1057c0, 0x1058ba, 0x1058c0, 0x10593a, 0x105940, 0x10596a, 0x105971, 0x105a2a, 0x105a31, 0x105b2a,
  0x105b31, 0x105baa, 0x105bb1, 0x105bda, 0x105c02, 0x105f4a, 0x106002, 0x10737a, 0x107402, 0x10756a, 0x107602, 0x10768a,
  0x107802, 0x10786a, 0x107872, 0x107b1a, 0x107b22, 0x107bba, 0x108002, 0x10806a, 0x108082, 0x10809a, 0x1080a2, 0x10836a,
  0x108372, 0x10839a, 0x1083c2, 0x1083da, 0x1083f2, 0x10856a, 0x108576, 0x10858b, 0x108602, 0x10877b, 0x108802, 0x1089fa,
  0x108a7b, 0x108b0a, 0x108e02, 0x108f3a, 0x108f42, 0x108f6a, 0x108fbb, 0x109002, 0x10916b, 0x1091ca, 0x1091f6, 0x109202,
  0x1093aa, 0x1093f6, 0x109402, 0x1095aa, 0x109802, 0x109b8a, 0x109bcb, 0x109be2, 0x109c0b, 0x109d0a, 0x109d2b, 0x10a002,
  0x10a01b, 0x10a04a, 0x10a05b, 0x10a07a, 0x10a0cb, 0x10a102, 0x10a14a, 0x10a152, 0x10a18a, 0x10a192, 0x10a36a, 0x10a38b,
  0x10a3ba, 0x10a3fb, 0x10a49a, 0x10a506, 0x10a59a, 0x10a602, 0x10a7db, 0x10a7f6, 0x10a802, 0x10a9db, 0x10aa0a, 0x10ac02,
  0x10ac8b, 0x10ac92, 0x10ae5b, 0x10ae7a, 0x10aebb, 0x10af06, 0x10af7a, 0x10b002, 0x10b36a, 0x10b396, 0x10b402, 0x10b56a,
  0x10b58b, 0x10b602, 0x10b73a, 0x10b78b, 0x10b802, 0x10b92a, 0x10b996, 0x10b9da, 0x10ba9b, 0x10bb0a, 0x10c002, 0x10c49a,
  0x10c800, 0x10cb3a, 0x10cc01, 0x10cf3a, 0x10cfab, 0x10d002, 0x10d24b, 0x10d28a, 0x10d304, 0x10d3aa, 0x10d404, 0x10d4a2,
  0x10d500, 0x10d66a, 0x10d69b, 0x10d6e6, 0x10d6f2, 0x10d701, 0x10d86a, 0x10d8eb, 0x10d90a, 0x10e60b, 0x10e7fa, 0x10e802,
  0x10eaaa, 0x10eabb, 0x10ead6, 0x10eaea, 0x10eb02, 0x10eb2a, 0x10ec22, 0x10ec8a, 0x10ed06, 0x10ed1b, 0x10ed9a, 0x10efab,
  0x10f002, 0x10f1db, 0x10f272, 0x10f28a, 0x10f302, 0x10f46b, 0x10f556, 0x10f5aa, 0x10f702, 0x10f82b, 0x10f866, 0x10f8aa,
  0x10fb02, 0x10fc5b, 0x10fcca, 0x10fe02, 0x10ff7a, 0x11000b, 0x110032, 0x11038b, 0x110476, 0x1104ea, 0x11052b, 0x110664,
  0x11070b, 0x110712, 0x11073b, 0x110752, 0x11076a, 0x1107fb, 0x110832, 0x110b0b, 0x110bb6, 0x110bda, 0x110be6, 0x110c2b,
  0x110c3a, 0x110d02, 0x110e9a, 0x110f04, 0x110faa, 0x11100b, 0x111032, 0x11127b, 0x11135a, 0x111364, 0x111406, 0x111442,
  0x11145b, 0x111472, 0x11148a, 0x111502, 0x11173b, 0x111746, 0x111762, 0x11177a, 0x11180b, 0x111832, 0x111b3b, 0x111c12,
  0x111c56, 0x111c9b, 0x111cd6, 0x111ceb, 0x111d04, 0x111da2, 0x111db6, 0x111dc2, 0x111dd6, 0x111e0a, 0x111e1b, 0x111f5a,
  0x112002, 0x11212a, 0x112132, 0x1122cb, 0x112386, 0x1123eb, 0x1123f2, 0x11241b, 0x11242a, 0x112802, 0x11287a, 0x112882,
  0x11289a, 0x1128a2, 0x1128ea, 0x1128f2, 0x1129ea, 0x1129f2, 0x112a96, 0x112aaa, 0x112b02, 0x112dfb, 0x112eba, 0x112f04,
  0x112faa, 0x11300b, 0x11304a, 0x113052, 0x1130da, 0x1130f2, 0x11311a, 0x113132, 0x11329a, 0x1132a2, 0x11331a, 0x113322,
  0x11334a, 0x113352, 0x1133aa, 0x1133bb, 0x1133d2, 0x1133eb, 0x11345a, 0x11347b, 0x11349a, 0x1134bb, 0x1134ea, 0x113502,
  0x11351a, 0x11357b, 0x11358a, 0x1135d2, 0x11362b, 0x11364a, 0x11366b, 0x1136da, 0x11370b, 0x11375a, 0x113802, 0x1138aa,
  0x1138b2, 0x1138ca, 0x1138e2, 0x1138fa, 0x113902, 0x113b6a, 0x113b72, 0x113b8b, 0x113c1a, 0x113c2b, 0x113c3a, 0x113c5b,
  0x113c6a, 0x113c7b, 0x113cba, 0x113ccb, 0x113d12, 0x113d2b, 0x113d32, 0x113d46, 0x113d6a, 0x113d76, 0x113d9a, 0x113e1b,
  0x113e3a, 0x114002, 0x11435b, 0x114472]

private def categoryPart8 : Array Nat := #[
  0x1144b6, 0x114504, 0x1145a6, 0x1145ca, 0x1145d6, 0x1145eb, 0x1145f2, 0x11462a, 0x114802, 0x114b0b, 0x114c42, 0x114c66,
  0x114c72, 0x114c8a, 0x114d04, 0x114daa, 0x115802, 0x115afb, 0x115b6a, 0x115b8b, 0x115c16, 0x115d82, 0x115dcb, 0x115dea,
  0x116002, 0x11630b, 0x116416, 0x116442, 0x11645a, 0x116504, 0x1165aa, 0x116606, 0x1166da, 0x116802, 0x116abb, 0x116b82,
  0x116b96, 0x116baa, 0x116c04, 0x116caa, 0x116d04, 0x116e4a, 0x117002, 0x1171ba, 0x1171db, 0x1172ca, 0x117304, 0x1173ab,
  0x1173c6, 0x1173fb, 0x117402, 0x11747a, 0x118002, 0x1182cb, 0x1183b6, 0x1183ca, 0x118a00, 0x118c01, 0x118e04, 0x118eab,
  0x118f3a, 0x118ff2, 0x11907a, 0x119092, 0x1190aa, 0x1190c2, 0x11914a, 0x119152, 0x11917a, 0x119182, 0x11930b, 0x11936a,
  0x11937b, 0x11939a, 0x1193bb, 0x1193f2, 0x11940b, 0x119412, 0x11942b, 0x119446, 0x11947a, 0x119504, 0x1195aa, 0x119a02,
  0x119a8a, 0x119aa2, 0x119d1b, 0x119d8a, 0x119dab, 0x119e12, 0x119e26, 0x119e32, 0x119e4b, 0x119e5a, 0x11a002, 0x11a01b,
  0x11a0b2, 0x11a33b, 0x11a3a2, 0x11a3bb, 0x11a3f6, 0x11a47b, 0x11a48a, 0x11a502, 0x11a51b, 0x11a5c2, 0x11a8ab, 0x11a9a6,
  0x11a9d2, 0x11a9e6, 0x11aa3a, 0x11ab02, 0x11af9a, 0x11b006, 0x11b0aa, 0x11b60b, 0x11b68a, 0x11bc02, 0x11be16, 0x11be2a,
  0x11bf04, 0x11bfaa, 0x11c002, 0x11c09a, 0x11c0a2, 0x11c2fb, 0x11c37a, 0x11c38b, 0x11c402, 0x11c416, 0x11c46a, 0x11c504,
  0x11c5ab, 0x11c6da, 0x11c706, 0x11c722, 0x11c90a, 0x11c92b, 0x11ca8a, 0x11ca9b, 0x11cb7a, 0x11d002, 0x11d07a, 0x11d082,
  0x11d0aa, 0x11d0b2, 0x11d31b, 0x11d37a, 0x11d3ab, 0x11d3ba, 0x11d3cb, 0x11d3ea, 0x11d3fb, 0x11d462, 0x11d47b, 0x11d48a,
  0x11d504, 0x11d5aa, 0x11d602, 0x11d66a, 0x11d672, 0x11d69a, 0x11d6a2, 0x11d8ab, 0x11d8fa, 0x11d90b, 0x11d92a, 0x11d93b,
  0x11d982, 0x11d99a, 0x11da04, 0x11daaa, 0x11db02, 0x11ddca, 0x11de04, 0x11deaa, 0x11ee02, 0x11ef3b, 0x11ef76, 0x11ef9a,
  0x11f00b, 0x11f022, 0x11f03b, 0x11f042, 0x11f11a, 0x11f122, 0x11f34b, 0x11f3ba, 0x11f3eb, 0x11f436, 0x11f504, 0x11f5ab,
  0x11f5ba, 0x11fb02, 0x11fb1a, 0x11fc0b, 0x11ff2a, 0x11fff6, 0x120002, 0x1239aa, 0x124003, 0x1246fa, 0x124706, 0x12475a,
  0x124802, 0x12544a, 0x12f902, 0x12ff16, 0x12ff3a, 0x130002, 0x13430a, 0x13440b, 0x134412, 0x13447b, 0x13456a, 0x134602,
  0x143fba, 0x144002, 0x14647a, 0x161002, 0x1611eb, 0x161304, 0x1613aa, 0x168002, 0x16a39a, 0x16a402, 0x16a5fa, 0x16a604,
  0x16a6aa, 0x16a6e6, 0x16a702, 0x16abfa, 0x16ac04, 0x16acaa, 0x16ad02, 0x16aeea, 0x16af0b, 0x16af56, 0x16af6a, 0x16b002,
  0x16b30b, 0x16b376, 0x16b3cb, 0x16b402, 0x16b446, 0x16b45b, 0x16b46a, 0x16b504, 0x16b5aa, 0x16b5bb, 0x16b62a, 0x16b632,
  0x16b78a, 0x16b7d2, 0x16b90a, 0x16d402, 0x16d6d6, 0x16d704, 0x16d7aa, 0x16e400, 0x16e601, 0x16e80b, 0x16e976, 0x16e9ba,
  0x16ea00, 0x16eb9a, 0x16ebb1, 0x16ed4a, 0x16f002, 0x16f4ba, 0x16f4fb, 0x16f502, 0x16f51b, 0x16f88a, 0x16f8fb, 0x16f932,
  0x16fa0a, 0x16fe02, 0x16fe26, 0x16fe32, 0x16fe4b, 0x16fe5a, 0x16ff0b, 0x16ff22, 0x16ff43, 0x16ff7a, 0x170002, 0x18cd6a,
  0x18cff2, 0x18d1fa, 0x18d802, 0x18df3a, 0x1aff02, 0x1aff4a, 0x1aff52, 0x1affca, 0x1affd2, 0x1afffa, 0x1b0002, 0x1b123a,
  0x1b1322, 0x1b133a, 0x1b1502, 0x1b153a, 0x1b1552, 0x1b156a, 0x1b1642, 0x1b168a, 0x1b1702, 0x1b2fca, 0x1bc002, 0x1bc6ba,
  0x1bc702, 0x1bc7da, 0x1bc802, 0x1bc89a, 0x1bc902, 0x1bc9aa, 0x1bc9cb, 0x1bc9f6, 0x1bca0a, 0x1cc00b, 0x1ccf04, 0x1ccfab,
  0x1ccfda, 0x1cd00b, 0x1ceb4a, 0x1cebab, 0x1ced1a, 0x1cee0b, 0x1cef1a, 0x1cf00b, 0x1cf2ea, 0x1cf30b, 0x1cf47a, 0x1cf50b,
  0x1cfc4a, 0x1d000b, 0x1d0f6a, 0x1d100b, 0x1d127a, 0x1d129b, 0x1d173a, 0x1d17bb, 0x1d1eba, 0x1d200b, 0x1d246a, 0x1d2c0b,
  0x1d2d4a, 0x1d2e0b, 0x1d2f4a, 0x1d300b, 0x1d357a, 0x1d360b, 0x1d379a, 0x1d4000, 0x1d41a1, 0x1d4340, 0x1d44e1, 0x1d455a,
  0x1d4561, 0x1d4680, 0x1d4821, 0x1d49c0, 0x1d49da, 0x1d49e0, 0x1d4a0a, 0x1d4a20, 0x1d4a3a, 0x1d4a50, 0x1d4a7a, 0x1d4a90,
  0x1d4ada, 0x1d4ae0, 0x1d4b61, 0x1d4baa, 0x1d4bb1, 0x1d4bca, 0x1d4bd1, 0x1d4c4a, 0x1d4c51, 0x1d4d00, 0x1d4ea1, 0x1d5040,
  0x1d506a, 0x1d5070, 0x1d50ba, 0x1d50d0, 0x1d515a, 0x1d5160, 0x1d51da, 0x1d51e1, 0x1d5380, 0x1d53aa, 0x1d53b0, 0x1d53fa,
  0x1d5400, 0x1d545a, 0x1d5460, 0x1d547a]

private def categoryPart9 : Array Nat := #[
  0x1d54a0, 0x1d551a, 0x1d5521, 0x1d56c0, 0x1d5861, 0x1d5a00, 0x1d5ba1, 0x1d5d40, 0x1d5ee1, 0x1d6080, 0x1d6221, 0x1d63c0,
  0x1d6561, 0x1d6700, 0x1d68a1, 0x1d6a6a, 0x1d6a80, 0x1d6c1b, 0x1d6c21, 0x1d6dbb, 0x1d6dc1, 0x1d6e20, 0x1d6fbb, 0x1d6fc1,
  0x1d715b, 0x1d7161, 0x1d71c0, 0x1d735b, 0x1d7361, 0x1d74fb, 0x1d7501, 0x1d7560, 0x1d76fb, 0x1d7701, 0x1d789b, 0x1d78a1,
  0x1d7900, 0x1d7a9b, 0x1d7aa1, 0x1d7c3b, 0x1d7c41, 0x1d7ca0, 0x1d7cb1, 0x1d7cca, 0x1d7ce4, 0x1d800b, 0x1da876, 0x1da8ca,
  0x1da9bb, 0x1daa0a, 0x1daa1b, 0x1dab0a, 0x1df001, 0x1df0a2, 0x1df0b1, 0x1df1fa, 0x1df251, 0x1df2ba, 0x1e000b, 0x1e007a,
  0x1e008b, 0x1e019a, 0x1e01bb, 0x1e022a, 0x1e023b, 0x1e025a, 0x1e026b, 0x1e02ba, 0x1e0302, 0x1e06ea, 0x1e08fb, 0x1e090a,
  0x1e1002, 0x1e12da, 0x1e130b, 0x1e1372, 0x1e13ea, 0x1e1404, 0x1e14aa, 0x1e14e2, 0x1e14fb, 0x1e150a, 0x1e2902, 0x1e2aeb,
  0x1e2afa, 0x1e2c02, 0x1e2ecb, 0x1e2f04, 0x1e2faa, 0x1e2ffb, 0x1e300a, 0x1e4d02, 0x1e4ecb, 0x1e4f04, 0x1e4faa, 0x1e5d02,
  0x1e5eeb, 0x1e5f02, 0x1e5f14, 0x1e5fba, 0x1e5ff6, 0x1e600a, 0x1e6c02, 0x1e6dfa, 0x1e6e02, 0x1e6e3b, 0x1e6e42, 0x1e6e6b,
  0x1e6e72, 0x1e6eeb, 0x1e6f02, 0x1e6f5b, 0x1e6f6a, 0x1e6fe2, 0x1e700a, 0x1e7e02, 0x1e7e7a, 0x1e7e82, 0x1e7eca, 0x1e7ed2,
  0x1e7efa, 0x1e7f02, 0x1e7ffa, 0x1e8002, 0x1e8c5a, 0x1e8c7b, 0x1e8d7a, 0x1e9000, 0x1e9221, 0x1e944b, 0x1e94b2, 0x1e94ca,
  0x1e9504, 0x1e95aa, 0x1e95e6, 0x1e960a, 0x1ec71b, 0x1ecb5a, 0x1ed01b, 0x1ed3ea, 0x1ee002, 0x1ee04a, 0x1ee052, 0x1ee20a,
  0x1ee212, 0x1ee23a, 0x1ee242, 0x1ee25a, 0x1ee272, 0x1ee28a, 0x1ee292, 0x1ee33a, 0x1ee342, 0x1ee38a, 0x1ee392, 0x1ee3aa,
  0x1ee3b2, 0x1ee3ca, 0x1ee422, 0x1ee43a, 0x1ee472, 0x1ee48a, 0x1ee492, 0x1ee4aa, 0x1ee4b2, 0x1ee4ca, 0x1ee4d2, 0x1ee50a,
  0x1ee512, 0x1ee53a, 0x1ee542, 0x1ee55a, 0x1ee572, 0x1ee58a, 0x1ee592, 0x1ee5aa, 0x1ee5b2, 0x1ee5ca, 0x1ee5d2, 0x1ee5ea,
  0x1ee5f2, 0x1ee60a, 0x1ee612, 0x1ee63a, 0x1ee642, 0x1ee65a, 0x1ee672, 0x1ee6ba, 0x1ee6c2, 0x1ee73a, 0x1ee742, 0x1ee78a,
  0x1ee792, 0x1ee7da, 0x1ee7e2, 0x1ee7fa, 0x1ee802, 0x1ee8aa, 0x1ee8b2, 0x1ee9ca, 0x1eea12, 0x1eea4a, 0x1eea52, 0x1eeaaa,
  0x1eeab2, 0x1eebca, 0x1eef0b, 0x1eef2a, 0x1f000b, 0x1f02ca, 0x1f030b, 0x1f094a, 0x1f0a0b, 0x1f0afa, 0x1f0b1b, 0x1f0c0a,
  0x1f0c1b, 0x1f0d0a, 0x1f0d1b, 0x1f0f6a, 0x1f100b, 0x1f1aea, 0x1f1e6b, 0x1f203a, 0x1f210b, 0x1f23ca, 0x1f240b, 0x1f249a,
  0x1f250b, 0x1f252a, 0x1f260b, 0x1f266a, 0x1f300b, 0x1f6d9a, 0x1f6dcb, 0x1f6eda, 0x1f6f0b, 0x1f6fda, 0x1f700b, 0x1f7daa,
  0x1f7e0b, 0x1f7eca, 0x1f7f0b, 0x1f7f1a, 0x1f800b, 0x1f80ca, 0x1f810b, 0x1f848a, 0x1f850b, 0x1f85aa, 0x1f860b, 0x1f888a,
  0x1f890b, 0x1f8aea, 0x1f8b0b, 0x1f8bca, 0x1f8c0b, 0x1f8c2a, 0x1f8d0b, 0x1f8d9a, 0x1f900b, 0x1fa58a, 0x1fa60b, 0x1fa6ea,
  0x1fa70b, 0x1fa7da, 0x1fa80b, 0x1fa8ba, 0x1fa8eb, 0x1fac7a, 0x1fac8b, 0x1fac9a, 0x1facdb, 0x1fadda, 0x1fadfb, 0x1faeba,
  0x1faefb, 0x1faf9a, 0x1fb00b, 0x1fb93a, 0x1fb94b, 0x1fbf04, 0x1fbfab, 0x1fbfba, 0x200002, 0x2a6e0a, 0x2a7002, 0x2b81ea,
  0x2b8202, 0x2ceaea, 0x2ceb02, 0x2ebe1a, 0x2ebf02, 0x2ee5ea, 0x2f8002, 0x2fa1ea, 0x300002, 0x3134ba, 0x313502, 0x3347aa,
  0xe0100b, 0xe01f0a]

/-- The runs of one category in ascending order: the last hexadecimal digit is the number of the category,
    the others are the first scalar value of the run. -/
def categoryRuns : RangeTable where
  bounds := categoryPart1 ++ categoryPart2 ++ categoryPart3 ++ categoryPart4 ++ categoryPart5 ++
    categoryPart6 ++ categoryPart7 ++ categoryPart8 ++ categoryPart9

/-- The category of a number in the table. -/
def Category.ofNumber : Nat → Category
  | 0 => upperLetter
  | 1 => lowerLetter
  | 2 => otherLetter
  | 3 => letterNumber
  | 4 => digit
  | 5 => connector
  | 6 => punctuation
  | 7 => space
  | 8 => separator
  | 9 => control
  | 10 => unseen
  | _ => remaining

/-- The category of a character: that of the last run which starts at it or before. -/
def category (c : Char) : Category :=
  let runs := categoryRuns.rank (16 * c.toNat + 15) 0 categoryRuns.bounds.size
  .ofNumber (categoryRuns.bounds.getD (runs - 1) 0 % 16)

end CodeAtlas.Unicode
