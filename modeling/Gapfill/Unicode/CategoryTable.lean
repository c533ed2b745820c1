import Gapfill.Unicode.Category

/-!
# The general category of every code point

The table lists, in increasing order, the code points at which the general
category changes, together with the category that begins there. It is cut
into pages, so that a look-up first finds the page and then the entry.
-/

namespace Gapfill.Unicode

open Category

private def categoryPage0 : List (Nat × Category) := [
  (0x0, Cc), (0x20, Zs), (0x21, Po), (0x24, Sc), (0x25, Po), (0x28, Ps), (0x29, Pe),
  (0x2a, Po), (0x2b, Sm), (0x2c, Po), (0x2d, Pd), (0x2e, Po), (0x30, Nd), (0x3a, Po),
  (0x3c, Sm), (0x3f, Po), (0x41, Lu), (0x5b, Ps), (0x5c, Po), (0x5d, Pe), (0x5e, Sk),
  (0x5f, Pc), (0x60, Sk), (0x61, Ll), (0x7b, Ps), (0x7c, Sm), (0x7d, Pe), (0x7e, Sm),
  (0x7f, Cc), (0xa0, Zs), (0xa1, Po), (0xa2, Sc), (0xa6, So), (0xa7, Po), (0xa8, Sk),
  (0xa9, So), (0xaa, Lo), (0xab, Pi), (0xac, Sm), (0xad, Cf), (0xae, So), (0xaf, Sk),
  (0xb0, So), (0xb1, Sm), (0xb2, No), (0xb4, Sk), (0xb5, Ll), (0xb6, Po), (0xb8, Sk),
  (0xb9, No), (0xba, Lo), (0xbb, Pf), (0xbc, No), (0xbf, Po), (0xc0, Lu), (0xd7, Sm),
  (0xd8, Lu), (0xdf, Ll), (0xf7, Sm), (0xf8, Ll), (0x100, Lu), (0x101, Ll), (0x102, Lu),
  (0x103, Ll), (0x104, Lu), (0x105, Ll), (0x106, Lu), (0x107, Ll), (0x108, Lu), (0x109, Ll),
  (0x10a, Lu), (0x10b, Ll), (0x10c, Lu), (0x10d, Ll), (0x10e, Lu), (0x10f, Ll), (0x110, Lu),
  (0x111, Ll), (0x112, Lu), (0x113, Ll), (0x114, Lu), (0x115, Ll), (0x116, Lu), (0x117, Ll),
  (0x118, Lu), (0x119, Ll), (0x11a, Lu), (0x11b, Ll), (0x11c, Lu), (0x11d, Ll), (0x11e, Lu),
  (0x11f, Ll), (0x120, Lu), (0x121, Ll), (0x122, Lu), (0x123, Ll), (0x124, Lu), (0x125, Ll),
  (0x126, Lu), (0x127, Ll), (0x128, Lu), (0x129, Ll), (0x12a, Lu), (0x12b, Ll), (0x12c, Lu),
  (0x12d, Ll), (0x12e, Lu), (0x12f, Ll), (0x130, Lu), (0x131, Ll), (0x132, Lu), (0x133, Ll),
  (0x134, Lu), (0x135, Ll), (0x136, Lu), (0x137, Ll), (0x139, Lu), (0x13a, Ll), (0x13b, Lu),
  (0x13c, Ll), (0x13d, Lu), (0x13e, Ll), (0x13f, Lu), (0x140, Ll), (0x141, Lu), (0x142, Ll),
  (0x143, Lu), (0x144, Ll), (0x145, Lu), (0x146, Ll), (0x147, Lu), (0x148, Ll), (0x14a, Lu),
  (0x14b, Ll), (0x14c, Lu), (0x14d, Ll), (0x14e, Lu), (0x14f, Ll), (0x150, Lu), (0x151, Ll),
  (0x152, Lu), (0x153, Ll), (0x154, Lu), (0x155, Ll), (0x156, Lu), (0x157, Ll), (0x158, Lu),
  (0x159, Ll), (0x15a, Lu), (0x15b, Ll), (0x15c, Lu), (0x15d, Ll), (0x15e, Lu), (0x15f, Ll),
  (0x160, Lu), (0x161, Ll), (0x162, Lu), (0x163, Ll), (0x164, Lu), (0x165, Ll)]

private def categoryPage1 : List (Nat × Category) := [
  (0x166, Lu), (0x167, Ll), (0x168, Lu), (0x169, Ll), (0x16a, Lu), (0x16b, Ll), (0x16c, Lu),
  (0x16d, Ll), (0x16e, Lu), (0x16f, Ll), (0x170, Lu), (0x171, Ll), (0x172, Lu), (0x173, Ll),
  (0x174, Lu), (0x175, Ll), (0x176, Lu), (0x177, Ll), (0x178, Lu), (0x17a, Ll), (0x17b, Lu),
  (0x17c, Ll), (0x17d, Lu), (0x17e, Ll), (0x181, Lu), (0x183, Ll), (0x184, Lu), (0x185, Ll),
  (0x186, Lu), (0x188, Ll), (0x189, Lu), (0x18c, Ll), (0x18e, Lu), (0x192, Ll), (0x193, Lu),
  (0x195, Ll), (0x196, Lu), (0x199, Ll), (0x19c, Lu), (0x19e, Ll), (0x19f, Lu), (0x1a1, Ll),
  (0x1a2, Lu), (0x1a3, Ll), (0x1a4, Lu), (0x1a5, Ll), (0x1a6, Lu), (0x1a8, Ll), (0x1a9, Lu),
  (0x1aa, Ll), (0x1ac, Lu), (0x1ad, Ll), (0x1ae, Lu), (0x1b0, Ll), (0x1b1, Lu), (0x1b4, Ll),
  (0x1b5, Lu), (0x1b6, Ll), (0x1b7, Lu), (0x1b9, Ll), (0x1bb, Lo), (0x1bc, Lu), (0x1bd, Ll),
  (0x1c0, Lo), (0x1c4, Lu), (0x1c5, Lt), (0x1c6, Ll), (0x1c7, Lu), (0x1c8, Lt), (0x1c9, Ll),
  (0x1ca, Lu), (0x1cb, Lt), (0x1cc, Ll), (0x1cd, Lu), (0x1ce, Ll), (0x1cf, Lu), (0x1d0, Ll),
  (0x1d1, Lu), (0x1d2, Ll), (0x1d3, Lu), (0x1d4, Ll), (0x1d5, Lu), (0x1d6, Ll), (0x1d7, Lu),
  (0x1d8, Ll), (0x1d9, Lu), (0x1da, Ll), (0x1db, Lu), (0x1dc, Ll), (0x1de, Lu), (0x1df, Ll),
  (0x1e0, Lu), (0x1e1, Ll), (0x1e2, Lu), (0x1e3, Ll), (0x1e4, Lu), (0x1e5, Ll), (0x1e6, Lu),
  (0x1e7, Ll), (0x1e8, Lu), (0x1e9, Ll), (0x1ea, Lu), (0x1eb, Ll), (0x1ec, Lu), (0x1ed, Ll),
  (0x1ee, Lu), (0x1ef, Ll), (0x1f1, Lu), (0x1f2, Lt), (0x1f3, Ll), (0x1f4, Lu), (0x1f5, Ll),
  (0x1f6, Lu), (0x1f9, Ll), (0x1fa, Lu), (0x1fb, Ll), (0x1fc, Lu), (0x1fd, Ll), (0x1fe, Lu),
  (0x1ff, Ll), (0x200, Lu), (0x201, Ll), (0x202, Lu), (0x203, Ll), (0x204, Lu), (0x205, Ll),
  (0x206, Lu), (0x207, Ll), (0x208, Lu), (0x209, Ll), (0x20a, Lu), (0x20b, Ll), (0x20c, Lu),
  (0x20d, Ll), (0x20e, Lu), (0x20f, Ll), (0x210, Lu), (0x211, Ll), (0x212, Lu), (0x213, Ll),
  (0x214, Lu), (0x215, Ll), (0x216, Lu), (0x217, Ll), (0x218, Lu), (0x219, Ll), (0x21a, Lu),
  (0x21b, Ll), (0x21c, Lu), (0x21d, Ll), (0x21e, Lu), (0x21f, Ll), (0x220, Lu), (0x221, Ll),
  (0x222, Lu), (0x223, Ll), (0x224, Lu), (0x225, Ll), (0x226, Lu), (0x227, Ll)]

private def categoryPage2 : List (Nat × Category) := [
  (0x228, Lu), (0x229, Ll), (0x22a, Lu), (0x22b, Ll), (0x22c, Lu), (0x22d, Ll), (0x22e, Lu),
  (0x22f, Ll), (0x230, Lu), (0x231, Ll), (0x232, Lu), (0x233, Ll), (0x23a, Lu), (0x23c, Ll),
  (0x23d, Lu), (0x23f, Ll), (0x241, Lu), (0x242, Ll), (0x243, Lu), (0x247, Ll), (0x248, Lu),
  (0x249, Ll), (0x24a, Lu), (0x24b, Ll), (0x24c, Lu), (0x24d, Ll), (0x24e, Lu), (0x24f, Ll),
  (0x294, Lo), (0x296, Ll), (0x2b0, Lm), (0x2c2, Sk), (0x2c6, Lm), (0x2d2, Sk), (0x2e0, Lm),
  (0x2e5, Sk), (0x2ec, Lm), (0x2ed, Sk), (0x2ee, Lm), (0x2ef, Sk), (0x300, Mn), (0x370, Lu),
  (0x371, Ll), (0x372, Lu), (0x373, Ll), (0x374, Lm), (0x375, Sk), (0x376, Lu), (0x377, Ll),
  (0x378, Cn), (0x37a, Lm), (0x37b, Ll), (0x37e, Po), (0x37f, Lu), (0x380, Cn), (0x384, Sk),
  (0x386, Lu), (0x387, Po), (0x388, Lu), (0x38b, Cn), (0x38c, Lu), (0x38d, Cn), (0x38e, Lu),
  (0x390, Ll), (0x391, Lu), (0x3a2, Cn), (0x3a3, Lu), (0x3ac, Ll), (0x3cf, Lu), (0x3d0, Ll),
  (0x3d2, Lu), (0x3d5, Ll), (0x3d8, Lu), (0x3d9, Ll), (0x3da, Lu), (0x3db, Ll), (0x3dc, Lu),
  (0x3dd, Ll), (0x3de, Lu), (0x3df, Ll), (0x3e0, Lu), (0x3e1, Ll), (0x3e2, Lu), (0x3e3, Ll),
  (0x3e4, Lu), (0x3e5, Ll), (0x3e6, Lu), (0x3e7, Ll), (0x3e8, Lu), (0x3e9, Ll), (0x3ea, Lu),
  (0x3eb, Ll), (0x3ec, Lu), (0x3ed, Ll), (0x3ee, Lu), (0x3ef, Ll), (0x3f4, Lu), (0x3f5, Ll),
  (0x3f6, Sm), (0x3f7, Lu), (0x3f8, Ll), (0x3f9, Lu), (0x3fb, Ll), (0x3fd, Lu), (0x430, Ll),
  (0x460, Lu), (0x461, Ll), (0x462, Lu), (0x463, Ll), (0x464, Lu), (0x465, Ll), (0x466, Lu),
  (0x467, Ll), (0x468, Lu), (0x469, Ll), (0x46a, Lu), (0x46b, Ll), (0x46c, Lu), (0x46d, Ll),
  (0x46e, Lu), (0x46f, Ll), (0x470, Lu), (0x471, Ll), (0x472, Lu), (0x473, Ll), (0x474, Lu),
  (0x475, Ll), (0x476, Lu), (0x477, Ll), (0x478, Lu), (0x479, Ll), (0x47a, Lu), (0x47b, Ll),
  (0x47c, Lu), (0x47d, Ll), (0x47e, Lu), (0x47f, Ll), (0x480, Lu), (0x481, Ll), (0x482, So),
  (0x483, Mn), (0x488, Me), (0x48a, Lu), (0x48b, Ll), (0x48c, Lu), (0x48d, Ll), (0x48e, Lu),
  (0x48f, Ll), (0x490, Lu), (0x491, Ll), (0x492, Lu), (0x493, Ll), (0x494, Lu), (0x495, Ll),
  (0x496, Lu), (0x497, Ll), (0x498, Lu), (0x499, Ll), (0x49a, Lu), (0x49b, Ll)]

private def categoryPage3 : List (Nat × Category) := [
  (0x49c, Lu), (0x49d, Ll), (0x49e, Lu), (0x49f, Ll), (0x4a0, Lu), (0x4a1, Ll), (0x4a2, Lu),
  (0x4a3, Ll), (0x4a4, Lu), (0x4a5, Ll), (0x4a6, Lu), (0x4a7, Ll), (0x4a8, Lu), (0x4a9, Ll),
  (0x4aa, Lu), (0x4ab, Ll), (0x4ac, Lu), (0x4ad, Ll), (0x4ae, Lu), (0x4af, Ll), (0x4b0, Lu),
  (0x4b1, Ll), (0x4b2, Lu), (0x4b3, Ll), (0x4b4, Lu), (0x4b5, Ll), (0x4b6, Lu), (0x4b7, Ll),
  (0x4b8, Lu), (0x4b9, Ll), (0x4ba, Lu), (0x4bb, Ll), (0x4bc, Lu), (0x4bd, Ll), (0x4be, Lu),
  (0x4bf, Ll), (0x4c0, Lu), (0x4c2, Ll), (0x4c3, Lu), (0x4c4, Ll), (0x4c5, Lu), (0x4c6, Ll),
  (0x4c7, Lu), (0x4c8, Ll), (0x4c9, Lu), (0x4ca, Ll), (0x4cb, Lu), (0x4cc, Ll), (0x4cd, Lu),
  (0x4ce, Ll), (0x4d0, Lu), (0x4d1, Ll), (0x4d2, Lu), (0x4d3, Ll), (0x4d4, Lu), (0x4d5, Ll),
  (0x4d6, Lu), (0x4d7, Ll), (0x4d8, Lu), (0x4d9, Ll), (0x4da, Lu), (0x4db, Ll), (0x4dc, Lu),
  (0x4dd, Ll), (0x4de, Lu), (0x4df, Ll), (0x4e0, Lu), (0x4e1, Ll), (0x4e2, Lu), (0x4e3, Ll),
  (0x4e4, Lu), (0x4e5, Ll), (0x4e6, Lu), (0x4e7, Ll), (0x4e8, Lu), (0x4e9, Ll), (0x4ea, Lu),
  (0x4eb, Ll), (0x4ec, Lu), (0x4ed, Ll), (0x4ee, Lu), (0x4ef, Ll), (0x4f0, Lu), (0x4f1, Ll),
  (0x4f2, Lu), (0x4f3, Ll), (0x4f4, Lu), (0x4f5, Ll), (0x4f6, Lu), (0x4f7, Ll), (0x4f8, Lu),
  (0x4f9, Ll), (0x4fa, Lu), (0x4fb, Ll), (0x4fc, Lu), (0x4fd, Ll), (0x4fe, Lu), (0x4ff, Ll),
  (0x500, Lu), (0x501, Ll), (0x502, Lu), (0x503, Ll), (0x504, Lu), (0x505, Ll), (0x506, Lu),
  (0x507, Ll), (0x508, Lu), (0x509, Ll), (0x50a, Lu), (0x50b, Ll), (0x50c, Lu), (0x50d, Ll),
  (0x50e, Lu), (0x50f, Ll), (0x510, Lu), (0x511, Ll), (0x512, Lu), (0x513, Ll), (0x514, Lu),
  (0x515, Ll), (0x516, Lu), (0x517, Ll), (0x518, Lu), (0x519, Ll), (0x51a, Lu), (0x51b, Ll),
  (0x51c, Lu), (0x51d, Ll), (0x51e, Lu), (0x51f, Ll), (0x520, Lu), (0x521, Ll), (0x522, Lu),
  (0x523, Ll), (0x524, Lu), (0x525, Ll), (0x526, Lu), (0x527, Ll), (0x528, Lu), (0x529, Ll),
  (0x52a, Lu), (0x52b, Ll), (0x52c, Lu), (0x52d, Ll), (0x52e, Lu), (0x52f, Ll), (0x530, Cn),
  (0x531, Lu), (0x557, Cn), (0x559, Lm), (0x55a, Po), (0x560, Ll), (0x589, Po), (0x58a, Pd),
  (0x58b, Cn), (0x58d, So), (0x58f, Sc), (0x590, Cn), (0x591, Mn), (0x5be, Pd)]

private def categoryPage4 : List (Nat × Category) := [
  (0x5bf, Mn), (0x5c0, Po), (0x5c1, Mn), (0x5c3, Po), (0x5c4, Mn), (0x5c6, Po), (0x5c7, Mn),
  (0x5c8, Cn), (0x5d0, Lo), (0x5eb, Cn), (0x5ef, Lo), (0x5f3, Po), (0x5f5, Cn), (0x600, Cf),
  (0x606, Sm), (0x609, Po), (0x60b, Sc), (0x60c, Po), (0x60e, So), (0x610, Mn), (0x61b, Po),
  (0x61c, Cf), (0x61d, Po), (0x620, Lo), (0x640, Lm), (0x641, Lo), (0x64b, Mn), (0x660, Nd),
  (0x66a, Po), (0x66e, Lo), (0x670, Mn), (0x671, Lo), (0x6d4, Po), (0x6d5, Lo), (0x6d6, Mn),
  (0x6dd, Cf), (0x6de, So), (0x6df, Mn), (0x6e5, Lm), (0x6e7, Mn), (0x6e9, So), (0x6ea, Mn),
  (0x6ee, Lo), (0x6f0, Nd), (0x6fa, Lo), (0x6fd, So), (0x6ff, Lo), (0x700, Po), (0x70e, Cn),
  (0x70f, Cf), (0x710, Lo), (0x711, Mn), (0x712, Lo), (0x730, Mn), (0x74b, Cn), (0x74d, Lo),
  (0x7a6, Mn), (0x7b1, Lo), (0x7b2, Cn), (0x7c0, Nd), (0x7ca, Lo), (0x7eb, Mn), (0x7f4, Lm),
  (0x7f6, So), (0x7f7, Po), (0x7fa, Lm), (0x7fb, Cn), (0x7fd, Mn), (0x7fe, Sc), (0x800, Lo),
  (0x816, Mn), (0x81a, Lm), (0x81b, Mn), (0x824, Lm), (0x825, Mn), (0x828, Lm), (0x829, Mn),
  (0x82e, Cn), (0x830, Po), (0x83f, Cn), (0x840, Lo), (0x859, Mn), (0x85c, Cn), (0x85e, Po),
  (0x85f, Cn), (0x860, Lo), (0x86b, Cn), (0x870, Lo), (0x888, Sk), (0x889, Lo), (0x890, Cf),
  (0x892, Cn), (0x897, Mn), (0x8a0, Lo), (0x8c9, Lm), (0x8ca, Mn), (0x8e2, Cf), (0x8e3, Mn),
  (0x903, Mc), (0x904, Lo), (0x93a, Mn), (0x93b, Mc), (0x93c, Mn), (0x93d, Lo), (0x93e, Mc),
  (0x941, Mn), (0x949, Mc), (0x94d, Mn), (0x94e, Mc), (0x950, Lo), (0x951, Mn), (0x958, Lo),
  (0x962, Mn), (0x964, Po), (0x966, Nd), (0x970, Po), (0x971, Lm), (0x972, Lo), (0x981, Mn),
  (0x982, Mc), (0x984, Cn), (0x985, Lo), (0x98d, Cn), (0x98f, Lo), (0x991, Cn), (0x993, Lo),
  (0x9a9, Cn), (0x9aa, Lo), (0x9b1, Cn), (0x9b2, Lo), (0x9b3, Cn), (0x9b6, Lo), (0x9ba, Cn),
  (0x9bc, Mn), (0x9bd, Lo), (0x9be, Mc), (0x9c1, Mn), (0x9c5, Cn), (0x9c7, Mc), (0x9c9, Cn),
  (0x9cb, Mc), (0x9cd, Mn), (0x9ce, Lo), (0x9cf, Cn), (0x9d7, Mc), (0x9d8, Cn), (0x9dc, Lo),
  (0x9de, Cn), (0x9df, Lo), (0x9e2, Mn), (0x9e4, Cn), (0x9e6, Nd), (0x9f0, Lo), (0x9f2, Sc),
  (0x9f4, No), (0x9fa, So), (0x9fb, Sc), (0x9fc, Lo), (0x9fd, Po), (0x9fe, Mn)]

private def categoryPage5 : List (Nat × Category) := [
  (0x9ff, Cn), (0xa01, Mn), (0xa03, Mc), (0xa04, Cn), (0xa05, Lo), (0xa0b, Cn), (0xa0f, Lo),
  (0xa11, Cn), (0xa13, Lo), (0xa29, Cn), (0xa2a, Lo), (0xa31, Cn), (0xa32, Lo), (0xa34, Cn),
  (0xa35, Lo), (0xa37, Cn), (0xa38, Lo), (0xa3a, Cn), (0xa3c, Mn), (0xa3d, Cn), (0xa3e, Mc),
  (0xa41, Mn), (0xa43, Cn), (0xa47, Mn), (0xa49, Cn), (0xa4b, Mn), (0xa4e, Cn), (0xa51, Mn),
  (0xa52, Cn), (0xa59, Lo), (0xa5d, Cn), (0xa5e, Lo), (0xa5f, Cn), (0xa66, Nd), (0xa70, Mn),
  (0xa72, Lo), (0xa75, Mn), (0xa76, Po), (0xa77, Cn), (0xa81, Mn), (0xa83, Mc), (0xa84, Cn),
  (0xa85, Lo), (0xa8e, Cn), (0xa8f, Lo), (0xa92, Cn), (0xa93, Lo), (0xaa9, Cn), (0xaaa, Lo),
  (0xab1, Cn), (0xab2, Lo), (0xab4, Cn), (0xab5, Lo), (0xaba, Cn), (0xabc, Mn), (0xabd, Lo),
  (0xabe, Mc), (0xac1, Mn), (0xac6, Cn), (0xac7, Mn), (0xac9, Mc), (0xaca, Cn), (0xacb, Mc),
  (0xacd, Mn), (0xace, Cn), (0xad0, Lo), (0xad1, Cn), (0xae0, Lo), (0xae2, Mn), (0xae4, Cn),
  (0xae6, Nd), (0xaf0, Po), (0xaf1, Sc), (0xaf2, Cn), (0xaf9, Lo), (0xafa, Mn), (0xb00, Cn),
  (0xb01, Mn), (0xb02, Mc), (0xb04, Cn), (0xb05, Lo), (0xb0d, Cn), (0xb0f, Lo), (0xb11, Cn),
  (0xb13, Lo), (0xb29, Cn), (0xb2a, Lo), (0xb31, Cn), (0xb32, Lo), (0xb34, Cn), (0xb35, Lo),
  (0xb3a, Cn), (0xb3c, Mn), (0xb3d, Lo), (0xb3e, Mc), (0xb3f, Mn), (0xb40, Mc), (0xb41, Mn),
  (0xb45, Cn), (0xb47, Mc), (0xb49, Cn), (0xb4b, Mc), (0xb4d, Mn), (0xb4e, Cn), (0xb55, Mn),
  (0xb57, Mc), (0xb58, Cn), (0xb5c, Lo), (0xb5e, Cn), (0xb5f, Lo), (0xb62, Mn), (0xb64, Cn),
  (0xb66, Nd), (0xb70, So), (0xb71, Lo), (0xb72, No), (0xb78, Cn), (0xb82, Mn), (0xb83, Lo),
  (0xb84, Cn), (0xb85, Lo), (0xb8b, Cn), (0xb8e, Lo), (0xb91, Cn), (0xb92, Lo), (0xb96, Cn),
  (0xb99, Lo), (0xb9b, Cn), (0xb9c, Lo), (0xb9d, Cn), (0xb9e, Lo), (0xba0, Cn), (0xba3, Lo),
  (0xba5, Cn), (0xba8, Lo), (0xbab, Cn), (0xbae, Lo), (0xbba, Cn), (0xbbe, Mc), (0xbc0, Mn),
  (0xbc1, Mc), (0xbc3, Cn), (0xbc6, Mc), (0xbc9, Cn), (0xbca, Mc), (0xbcd, Mn), (0xbce, Cn),
  (0xbd0, Lo), (0xbd1, Cn), (0xbd7, Mc), (0xbd8, Cn), (0xbe6, Nd), (0xbf0, No), (0xbf3, So),
  (0xbf9, Sc), (0xbfa, So), (0xbfb, Cn), (0xc00, Mn), (0xc01, Mc), (0xc04, Mn)]

private def categoryPage6 : List (Nat × Category) := [
  (0xc05, Lo), (0xc0d, Cn), (0xc0e, Lo), (0xc11, Cn), (0xc12, Lo), (0xc29, Cn), (0xc2a, Lo),
  (0xc3a, Cn), (0xc3c, Mn), (0xc3d, Lo), (0xc3e, Mn), (0xc41, Mc), (0xc45, Cn), (0xc46, Mn),
  (0xc49, Cn), (0xc4a, Mn), (0xc4e, Cn), (0xc55, Mn), (0xc57, Cn), (0xc58, Lo), (0xc5b, Cn),
  (0xc5c, Lo), (0xc5e, Cn), (0xc60, Lo), (0xc62, Mn), (0xc64, Cn), (0xc66, Nd), (0xc70, Cn),
  (0xc77, Po), (0xc78, No), (0xc7f, So), (0xc80, Lo), (0xc81, Mn), (0xc82, Mc), (0xc84, Po),
  (0xc85, Lo), (0xc8d, Cn), (0xc8e, Lo), (0xc91, Cn), (0xc92, Lo), (0xca9, Cn), (0xcaa, Lo),
  (0xcb4, Cn), (0xcb5, Lo), (0xcba, Cn), (0xcbc, Mn), (0xcbd, Lo), (0xcbe, Mc), (0xcbf, Mn),
  (0xcc0, Mc), (0xcc5, Cn), (0xcc6, Mn), (0xcc7, Mc), (0xcc9, Cn), (0xcca, Mc), (0xccc, Mn),
  (0xcce, Cn), (0xcd5, Mc), (0xcd7, Cn), (0xcdc, Lo), (0xcdf, Cn), (0xce0, Lo), (0xce2, Mn),
  (0xce4, Cn), (0xce6, Nd), (0xcf0, Cn), (0xcf1, Lo), (0xcf3, Mc), (0xcf4, Cn), (0xd00, Mn),
  (0xd02, Mc), (0xd04, Lo), (0xd0d, Cn), (0xd0e, Lo), (0xd11, Cn), (0xd12, Lo), (0xd3b, Mn),
  (0xd3d, Lo), (0xd3e, Mc), (0xd41, Mn), (0xd45, Cn), (0xd46, Mc), (0xd49, Cn), (0xd4a, Mc),
  (0xd4d, Mn), (0xd4e, Lo), (0xd4f, So), (0xd50, Cn), (0xd54, Lo), (0xd57, Mc), (0xd58, No),
  (0xd5f, Lo), (0xd62, Mn), (0xd64, Cn), (0xd66, Nd), (0xd70, No), (0xd79, So), (0xd7a, Lo),
  (0xd80, Cn), (0xd81, Mn), (0xd82, Mc), (0xd84, Cn), (0xd85, Lo), (0xd97, Cn), (0xd9a, Lo),
  (0xdb2, Cn), (0xdb3, Lo), (0xdbc, Cn), (0xdbd, Lo), (0xdbe, Cn), (0xdc0, Lo), (0xdc7, Cn),
  (0xdca, Mn), (0xdcb, Cn), (0xdcf, Mc), (0xdd2, Mn), (0xdd5, Cn), (0xdd6, Mn), (0xdd7, Cn),
  (0xdd8, Mc), (0xde0, Cn), (0xde6, Nd), (0xdf0, Cn), (0xdf2, Mc), (0xdf4, Po), (0xdf5, Cn),
  (0xe01, Lo), (0xe31, Mn), (0xe32, Lo), (0xe34, Mn), (0xe3b, Cn), (0xe3f, Sc), (0xe40, Lo),
  (0xe46, Lm), (0xe47, Mn), (0xe4f, Po), (0xe50, Nd), (0xe5a, Po), (0xe5c, Cn), (0xe81, Lo),
  (0xe83, Cn), (0xe84, Lo), (0xe85, Cn), (0xe86, Lo), (0xe8b, Cn), (0xe8c, Lo), (0xea4, Cn),
  (0xea5, Lo), (0xea6, Cn), (0xea7, Lo), (0xeb1, Mn), (0xeb2, Lo), (0xeb4, Mn), (0xebd, Lo),
  (0xebe, Cn), (0xec0, Lo), (0xec5, Cn), (0xec6, Lm), (0xec7, Cn), (0xec8, Mn)]

private def categoryPage7 : List (Nat × Category) := [
  (0xecf, Cn), (0xed0, Nd), (0xeda, Cn), (0xedc, Lo), (0xee0, Cn), (0xf00, Lo), (0xf01, So),
  (0xf04, Po), (0xf13, So), (0xf14, Po), (0xf15, So), (0xf18, Mn), (0xf1a, So), (0xf20, Nd),
  (0xf2a, No), (0xf34, So), (0xf35, Mn), (0xf36, So), (0xf37, Mn), (0xf38, So), (0xf39, Mn),
  (0xf3a, Ps), (0xf3b, Pe), (0xf3c, Ps), (0xf3d, Pe), (0xf3e, Mc), (0xf40, Lo), (0xf48, Cn),
  (0xf49, Lo), (0xf6d, Cn), (0xf71, Mn), (0xf7f, Mc), (0xf80, Mn), (0xf85, Po), (0xf86, Mn),
  (0xf88, Lo), (0xf8d, Mn), (0xf98, Cn), (0xf99, Mn), (0xfbd, Cn), (0xfbe, So), (0xfc6, Mn),
  (0xfc7, So), (0xfcd, Cn), (0xfce, So), (0xfd0, Po), (0xfd5, So), (0xfd9, Po), (0xfdb, Cn),
  (0x1000, Lo), (0x102b, Mc), (0x102d, Mn), (0x1031, Mc), (0x1032, Mn), (0x1038, Mc),
  (0x1039, Mn), (0x103b, Mc), (0x103d, Mn), (0x103f, Lo), (0x1040, Nd), (0x104a, Po),
  (0x1050, Lo), (0x1056, Mc), (0x1058, Mn), (0x105a, Lo), (0x105e, Mn), (0x1061, Lo),
  (0x1062, Mc), (0x1065, Lo), (0x1067, Mc), (0x106e, Lo), (0x1071, Mn), (0x1075, Lo),
  (0x1082, Mn), (0x1083, Mc), (0x1085, Mn), (0x1087, Mc), (0x108d, Mn), (0x108e, Lo),
  (0x108f, Mc), (0x1090, Nd), (0x109a, Mc), (0x109d, Mn), (0x109e, So), (0x10a0, Lu),
  (0x10c6, Cn), (0x10c7, Lu), (0x10c8, Cn), (0x10cd, Lu), (0x10ce, Cn), (0x10d0, Ll),
  (0x10fb, Po), (0x10fc, Lm), (0x10fd, Ll), (0x1100, Lo), (0x1249, Cn), (0x124a, Lo),
  (0x124e, Cn), (0x1250, Lo), (0x1257, Cn), (0x1258, Lo), (0x1259, Cn), (0x125a, Lo),
  (0x125e, Cn), (0x1260, Lo), (0x1289, Cn), (0x128a, Lo), (0x128e, Cn), (0x1290, Lo),
  (0x12b1, Cn), (0x12b2, Lo), (0x12b6, Cn), (0x12b8, Lo), (0x12bf, Cn), (0x12c0, Lo),
  (0x12c1, Cn), (0x12c2, Lo), (0x12c6, Cn), (0x12c8, Lo), (0x12d7, Cn), (0x12d8, Lo),
  (0x1311, Cn), (0x1312, Lo), (0x1316, Cn), (0x1318, Lo), (0x135b, Cn), (0x135d, Mn),
  (0x1360, Po), (0x1369, No), (0x137d, Cn), (0x1380, Lo), (0x1390, So), (0x139a, Cn),
  (0x13a0, Lu), (0x13f6, Cn), (0x13f8, Ll), (0x13fe, Cn), (0x1400, Pd), (0x1401, Lo),
  (0x166d, So), (0x166e, Po), (0x166f, Lo), (0x1680, Zs), (0x1681, Lo), (0x169b, Ps),
  (0x169c, Pe), (0x169d, Cn), (0x16a0, Lo), (0x16eb, Po), (0x16ee, Nl), (0x16f1, Lo),
  (0x16f9, Cn), (0x1700, Lo), (0x1712, Mn), (0x1715, Mc), (0x1716, Cn), (0x171f, Lo),
  (0x1732, Mn), (0x1734, Mc), (0x1735, Po)]

private def categoryPage8 : List (Nat × Category) := [
  (0x1737, Cn), (0x1740, Lo), (0x1752, Mn), (0x1754, Cn), (0x1760, Lo), (0x176d, Cn),
  (0x176e, Lo), (0x1771, Cn), (0x1772, Mn), (0x1774, Cn), (0x1780, Lo), (0x17b4, Mn),
  (0x17b6, Mc), (0x17b7, Mn), (0x17be, Mc), (0x17c6, Mn), (0x17c7, Mc), (0x17c9, Mn),
  (0x17d4, Po), (0x17d7, Lm), (0x17d8, Po), (0x17db, Sc), (0x17dc, Lo), (0x17dd, Mn),
  (0x17de, Cn), (0x17e0, Nd), (0x17ea, Cn), (0x17f0, No), (0x17fa, Cn), (0x1800, Po),
  (0x1806, Pd), (0x1807, Po), (0x180b, Mn), (0x180e, Cf), (0x180f, Mn), (0x1810, Nd),
  (0x181a, Cn), (0x1820, Lo), (0x1843, Lm), (0x1844, Lo), (0x1879, Cn), (0x1880, Lo),
  (0x1885, Mn), (0x1887, Lo), (0x18a9, Mn), (0x18aa, Lo), (0x18ab, Cn), (0x18b0, Lo),
  (0x18f6, Cn), (0x1900, Lo), (0x191f, Cn), (0x1920, Mn), (0x1923, Mc), (0x1927, Mn),
  (0x1929, Mc), (0x192c, Cn), (0x1930, Mc), (0x1932, Mn), (0x1933, Mc), (0x1939, Mn),
  (0x193c, Cn), (0x1940, So), (0x1941, Cn), (0x1944, Po), (0x1946, Nd), (0x1950, Lo),
  (0x196e, Cn), (0x1970, Lo), (0x1975, Cn), (0x1980, Lo), (0x19ac, Cn), (0x19b0, Lo),
  (0x19ca, Cn), (0x19d0, Nd), (0x19da, No), (0x19db, Cn), (0x19de, So), (0x1a00, Lo),
  (0x1a17, Mn), (0x1a19, Mc), (0x1a1b, Mn), (0x1a1c, Cn), (0x1a1e, Po), (0x1a20, Lo),
  (0x1a55, Mc), (0x1a56, Mn), (0x1a57, Mc), (0x1a58, Mn), (0x1a5f, Cn), (0x1a60, Mn),
  (0x1a61, Mc), (0x1a62, Mn), (0x1a63, Mc), (0x1a65, Mn), (0x1a6d, Mc), (0x1a73, Mn),
  (0x1a7d, Cn), (0x1a7f, Mn), (0x1a80, Nd), (0x1a8a, Cn), (0x1a90, Nd), (0x1a9a, Cn),
  (0x1aa0, Po), (0x1aa7, Lm), (0x1aa8, Po), (0x1aae, Cn), (0x1ab0, Mn), (0x1abe, Me),
  (0x1abf, Mn), (0x1ade, Cn), (0x1ae0, Mn), (0x1aec, Cn), (0x1b00, Mn), (0x1b04, Mc),
  (0x1b05, Lo), (0x1b34, Mn), (0x1b35, Mc), (0x1b36, Mn), (0x1b3b, Mc), (0x1b3c, Mn),
  (0x1b3d, Mc), (0x1b42, Mn), (0x1b43, Mc), (0x1b45, Lo), (0x1b4d, Cn), (0x1b4e, Po),
  (0x1b50, Nd), (0x1b5a, Po), (0x1b61, So), (0x1b6b, Mn), (0x1b74, So), (0x1b7d, Po),
  (0x1b80, Mn), (0x1b82, Mc), (0x1b83, Lo), (0x1ba1, Mc), (0x1ba2, Mn), (0x1ba6, Mc),
  (0x1ba8, Mn), (0x1baa, Mc), (0x1bab, Mn), (0x1bae, Lo), (0x1bb0, Nd), (0x1bba, Lo),
  (0x1be6, Mn), (0x1be7, Mc), (0x1be8, Mn), (0x1bea, Mc), (0x1bed, Mn), (0x1bee, Mc),
  (0x1bef, Mn), (0x1bf2, Mc), (0x1bf4, Cn), (0x1bfc, Po), (0x1c00, Lo), (0x1c24, Mc),
  (0x1c2c, Mn), (0x1c34, Mc), (0x1c36, Mn), (0x1c38, Cn)]

private def categoryPage9 : List (Nat × Category) := [
  (0x1c3b, Po), (0x1c40, Nd), (0x1c4a, Cn), (0x1c4d, Lo), (0x1c50, Nd), (0x1c5a, Lo),
  (0x1c78, Lm), (0x1c7e, Po), (0x1c80, Ll), (0x1c89, Lu), (0x1c8a, Ll), (0x1c8b, Cn),
  (0x1c90, Lu), (0x1cbb, Cn), (0x1cbd, Lu), (0x1cc0, Po), (0x1cc8, Cn), (0x1cd0, Mn),
  (0x1cd3, Po), (0x1cd4, Mn), (0x1ce1, Mc), (0x1ce2, Mn), (0x1ce9, Lo), (0x1ced, Mn),
  (0x1cee, Lo), (0x1cf4, Mn), (0x1cf5, Lo), (0x1cf7, Mc), (0x1cf8, Mn), (0x1cfa, Lo),
  (0x1cfb, Cn), (0x1d00, Ll), (0x1d2c, Lm), (0x1d6b, Ll), (0x1d78, Lm), (0x1d79, Ll),
  (0x1d9b, Lm), (0x1dc0, Mn), (0x1e00, Lu), (0x1e01, Ll), (0x1e02, Lu), (0x1e03, Ll),
  (0x1e04, Lu), (0x1e05, Ll), (0x1e06, Lu), (0x1e07, Ll), (0x1e08, Lu), (0x1e09, Ll),
  (0x1e0a, Lu), (0x1e0b, Ll), (0x1e0c, Lu), (0x1e0d, Ll), (0x1e0e, Lu), (0x1e0f, Ll),
  (0x1e10, Lu), (0x1e11, Ll), (0x1e12, Lu), (0x1e13, Ll), (0x1e14, Lu), (0x1e15, Ll),
  (0x1e16, Lu), (0x1e17, Ll), (0x1e18, Lu), (0x1e19, Ll), (0x1e1a, Lu), (0x1e1b, Ll),
  (0x1e1c, Lu), (0x1e1d, Ll), (0x1e1e, Lu), (0x1e1f, Ll), (0x1e20, Lu), (0x1e21, Ll),
  (0x1e22, Lu), (0x1e23, Ll), (0x1e24, Lu), (0x1e25, Ll), (0x1e26, Lu), (0x1e27, Ll),
  (0x1e28, Lu), (0x1e29, Ll), (0x1e2a, Lu), (0x1e2b, Ll), (0x1e2c, Lu), (0x1e2d, Ll),
  (0x1e2e, Lu), (0x1e2f, Ll), (0x1e30, Lu), (0x1e31, Ll), (0x1e32, Lu), (0x1e33, Ll),
  (0x1e34, Lu), (0x1e35, Ll), (0x1e36, Lu), (0x1e37, Ll), (0x1e38, Lu), (0x1e39, Ll),
  (0x1e3a, Lu), (0x1e3b, Ll), (0x1e3c, Lu), (0x1e3d, Ll), (0x1e3e, Lu), (0x1e3f, Ll),
  (0x1e40, Lu), (0x1e41, Ll), (0x1e42, Lu), (0x1e43, Ll), (0x1e44, Lu), (0x1e45, Ll),
  (0x1e46, Lu), (0x1e47, Ll), (0x1e48, Lu), (0x1e49, Ll), (0x1e4a, Lu), (0x1e4b, Ll),
  (0x1e4c, Lu), (0x1e4d, Ll), (0x1e4e, Lu), (0x1e4f, Ll), (0x1e50, Lu), (0x1e51, Ll),
  (0x1e52, Lu), (0x1e53, Ll), (0x1e54, Lu), (0x1e55, Ll), (0x1e56, Lu), (0x1e57, Ll),
  (0x1e58, Lu), (0x1e59, Ll), (0x1e5a, Lu), (0x1e5b, Ll), (0x1e5c, Lu), (0x1e5d, Ll),
  (0x1e5e, Lu), (0x1e5f, Ll), (0x1e60, Lu), (0x1e61, Ll), (0x1e62, Lu), (0x1e63, Ll),
  (0x1e64, Lu), (0x1e65, Ll), (0x1e66, Lu), (0x1e67, Ll), (0x1e68, Lu), (0x1e69, Ll),
  (0x1e6a, Lu), (0x1e6b, Ll), (0x1e6c, Lu), (0x1e6d, Ll), (0x1e6e, Lu), (0x1e6f, Ll),
  (0x1e70, Lu), (0x1e71, Ll), (0x1e72, Lu), (0x1e73, Ll), (0x1e74, Lu), (0x1e75, Ll),
  (0x1e76, Lu), (0x1e77, Ll), (0x1e78, Lu), (0x1e79, Ll)]

private def categoryPage10 : List (Nat × Category) := [
  (0x1e7a, Lu), (0x1e7b, Ll), (0x1e7c, Lu), (0x1e7d, Ll), (0x1e7e, Lu), (0x1e7f, Ll),
  (0x1e80, Lu), (0x1e81, Ll), (0x1e82, Lu), (0x1e83, Ll), (0x1e84, Lu), (0x1e85, Ll),
  (0x1e86, Lu), (0x1e87, Ll), (0x1e88, Lu), (0x1e89, Ll), (0x1e8a, Lu), (0x1e8b, Ll),
  (0x1e8c, Lu), (0x1e8d, Ll), (0x1e8e, Lu), (0x1e8f, Ll), (0x1e90, Lu), (0x1e91, Ll),
  (0x1e92, Lu), (0x1e93, Ll), (0x1e94, Lu), (0x1e95, Ll), (0x1e9e, Lu), (0x1e9f, Ll),
  (0x1ea0, Lu), (0x1ea1, Ll), (0x1ea2, Lu), (0x1ea3, Ll), (0x1ea4, Lu), (0x1ea5, Ll),
  (0x1ea6, Lu), (0x1ea7, Ll), (0x1ea8, Lu), (0x1ea9, Ll), (0x1eaa, Lu), (0x1eab, Ll),
  (0x1eac, Lu), (0x1ead, Ll), (0x1eae, Lu), (0x1eaf, Ll), (0x1eb0, Lu), (0x1eb1, Ll),
  (0x1eb2, Lu), (0x1eb3, Ll), (0x1eb4, Lu), (0x1eb5, Ll), (0x1eb6, Lu), (0x1eb7, Ll),
  (0x1eb8, Lu), (0x1eb9, Ll), (0x1eba, Lu), (0x1ebb, Ll), (0x1ebc, Lu), (0x1ebd, Ll),
  (0x1ebe, Lu), (0x1ebf, Ll), (0x1ec0, Lu), (0x1ec1, Ll), (0x1ec2, Lu), (0x1ec3, Ll),
  (0x1ec4, Lu), (0x1ec5, Ll), (0x1ec6, Lu), (0x1ec7, Ll), (0x1ec8, Lu), (0x1ec9, Ll),
  (0x1eca, Lu), (0x1ecb, Ll), (0x1ecc, Lu), (0x1ecd, Ll), (0x1ece, Lu), (0x1ecf, Ll),
  (0x1ed0, Lu), (0x1ed1, Ll), (0x1ed2, Lu), (0x1ed3, Ll), (0x1ed4, Lu), (0x1ed5, Ll),
  (0x1ed6, Lu), (0x1ed7, Ll), (0x1ed8, Lu), (0x1ed9, Ll), (0x1eda, Lu), (0x1edb, Ll),
  (0x1edc, Lu), (0x1edd, Ll), (0x1ede, Lu), (0x1edf, Ll), (0x1ee0, Lu), (0x1ee1, Ll),
  (0x1ee2, Lu), (0x1ee3, Ll), (0x1ee4, Lu), (0x1ee5, Ll), (0x1ee6, Lu), (0x1ee7, Ll),
  (0x1ee8, Lu), (0x1ee9, Ll), (0x1eea, Lu), (0x1eeb, Ll), (0x1eec, Lu), (0x1eed, Ll),
  (0x1eee, Lu), (0x1eef, Ll), (0x1ef0, Lu), (0x1ef1, Ll), (0x1ef2, Lu), (0x1ef3, Ll),
  (0x1ef4, Lu), (0x1ef5, Ll), (0x1ef6, Lu), (0x1ef7, Ll), (0x1ef8, Lu), (0x1ef9, Ll),
  (0x1efa, Lu), (0x1efb, Ll), (0x1efc, Lu), (0x1efd, Ll), (0x1efe, Lu), (0x1eff, Ll),
  (0x1f08, Lu), (0x1f10, Ll), (0x1f16, Cn), (0x1f18, Lu), (0x1f1e, Cn), (0x1f20, Ll),
  (0x1f28, Lu), (0x1f30, Ll), (0x1f38, Lu), (0x1f40, Ll), (0x1f46, Cn), (0x1f48, Lu),
  (0x1f4e, Cn), (0x1f50, Ll), (0x1f58, Cn), (0x1f59, Lu), (0x1f5a, Cn), (0x1f5b, Lu),
  (0x1f5c, Cn), (0x1f5d, Lu), (0x1f5e, Cn), (0x1f5f, Lu), (0x1f60, Ll), (0x1f68, Lu),
  (0x1f70, Ll), (0x1f7e, Cn), (0x1f80, Ll), (0x1f88, Lt), (0x1f90, Ll), (0x1f98, Lt),
  (0x1fa0, Ll), (0x1fa8, Lt), (0x1fb0, Ll), (0x1fb5, Cn)]

private def categoryPage11 : List (Nat × Category) := [
  (0x1fb6, Ll), (0x1fb8, Lu), (0x1fbc, Lt), (0x1fbd, Sk), (0x1fbe, Ll), (0x1fbf, Sk),
  (0x1fc2, Ll), (0x1fc5, Cn), (0x1fc6, Ll), (0x1fc8, Lu), (0x1fcc, Lt), (0x1fcd, Sk),
  (0x1fd0, Ll), (0x1fd4, Cn), (0x1fd6, Ll), (0x1fd8, Lu), (0x1fdc, Cn), (0x1fdd, Sk),
  (0x1fe0, Ll), (0x1fe8, Lu), (0x1fed, Sk), (0x1ff0, Cn), (0x1ff2, Ll), (0x1ff5, Cn),
  (0x1ff6, Ll), (0x1ff8, Lu), (0x1ffc, Lt), (0x1ffd, Sk), (0x1fff, Cn), (0x2000, Zs),
  (0x200b, Cf), (0x2010, Pd), (0x2016, Po), (0x2018, Pi), (0x2019, Pf), (0x201a, Ps),
  (0x201b, Pi), (0x201d, Pf), (0x201e, Ps), (0x201f, Pi), (0x2020, Po), (0x2028, Zl),
  (0x2029, Zp), (0x202a, Cf), (0x202f, Zs), (0x2030, Po), (0x2039, Pi), (0x203a, Pf),
  (0x203b, Po), (0x203f, Pc), (0x2041, Po), (0x2044, Sm), (0x2045, Ps), (0x2046, Pe),
  (0x2047, Po), (0x2052, Sm), (0x2053, Po), (0x2054, Pc), (0x2055, Po), (0x205f, Zs),
  (0x2060, Cf), (0x2065, Cn), (0x2066, Cf), (0x2070, No), (0x2071, Lm), (0x2072, Cn),
  (0x2074, No), (0x207a, Sm), (0x207d, Ps), (0x207e, Pe), (0x207f, Lm), (0x2080, No),
  (0x208a, Sm), (0x208d, Ps), (0x208e, Pe), (0x208f, Cn), (0x2090, Lm), (0x209d, Cn),
  (0x20a0, Sc), (0x20c2, Cn), (0x20d0, Mn), (0x20dd, Me), (0x20e1, Mn), (0x20e2, Me),
  (0x20e5, Mn), (0x20f1, Cn), (0x2100, So), (0x2102, Lu), (0x2103, So), (0x2107, Lu),
  (0x2108, So), (0x210a, Ll), (0x210b, Lu), (0x210e, Ll), (0x2110, Lu), (0x2113, Ll),
  (0x2114, So), (0x2115, Lu), (0x2116, So), (0x2118, Sm), (0x2119, Lu), (0x211e, So),
  (0x2124, Lu), (0x2125, So), (0x2126, Lu), (0x2127, So), (0x2128, Lu), (0x2129, So),
  (0x212a, Lu), (0x212e, So), (0x212f, Ll), (0x2130, Lu), (0x2134, Ll), (0x2135, Lo),
  (0x2139, Ll), (0x213a, So), (0x213c, Ll), (0x213e, Lu), (0x2140, Sm), (0x2145, Lu),
  (0x2146, Ll), (0x214a, So), (0x214b, Sm), (0x214c, So), (0x214e, Ll), (0x214f, So),
  (0x2150, No), (0x2160, Nl), (0x2183, Lu), (0x2184, Ll), (0x2185, Nl), (0x2189, No),
  (0x218a, So), (0x218c, Cn), (0x2190, Sm), (0x2195, So), (0x219a, Sm), (0x219c, So),
  (0x21a0, Sm), (0x21a1, So), (0x21a3, Sm), (0x21a4, So), (0x21a6, Sm), (0x21a7, So),
  (0x21ae, Sm), (0x21af, So), (0x21ce, Sm), (0x21d0, So), (0x21d2, Sm), (0x21d3, So),
  (0x21d4, Sm), (0x21d5, So), (0x21f4, Sm), (0x2300, So), (0x2308, Ps), (0x2309, Pe),
  (0x230a, Ps), (0x230b, Pe), (0x230c, So), (0x2320, Sm)]

private def categoryPage12 : List (Nat × Category) := [
  (0x2322, So), (0x2329, Ps), (0x232a, Pe), (0x232b, So), (0x237c, Sm), (0x237d, So),
  (0x239b, Sm), (0x23b4, So), (0x23dc, Sm), (0x23e2, So), (0x242a, Cn), (0x2440, So),
  (0x244b, Cn), (0x2460, No), (0x249c, So), (0x24ea, No), (0x2500, So), (0x25b7, Sm),
  (0x25b8, So), (0x25c1, Sm), (0x25c2, So), (0x25f8, Sm), (0x2600, So), (0x266f, Sm),
  (0x2670, So), (0x2768, Ps), (0x2769, Pe), (0x276a, Ps), (0x276b, Pe), (0x276c, Ps),
  (0x276d, Pe), (0x276e, Ps), (0x276f, Pe), (0x2770, Ps), (0x2771, Pe), (0x2772, Ps),
  (0x2773, Pe), (0x2774, Ps), (0x2775, Pe), (0x2776, No), (0x2794, So), (0x27c0, Sm),
  (0x27c5, Ps), (0x27c6, Pe), (0x27c7, Sm), (0x27e6, Ps), (0x27e7, Pe), (0x27e8, Ps),
  (0x27e9, Pe), (0x27ea, Ps), (0x27eb, Pe), (0x27ec, Ps), (0x27ed, Pe), (0x27ee, Ps),
  (0x27ef, Pe), (0x27f0, Sm), (0x2800, So), (0x2900, Sm), (0x2983, Ps), (0x2984, Pe),
  (0x2985, Ps), (0x2986, Pe), (0x2987, Ps), (0x2988, Pe), (0x2989, Ps), (0x298a, Pe),
  (0x298b, Ps), (0x298c, Pe), (0x298d, Ps), (0x298e, Pe), (0x298f, Ps), (0x2990, Pe),
  (0x2991, Ps), (0x2992, Pe), (0x2993, Ps), (0x2994, Pe), (0x2995, Ps), (0x2996, Pe),
  (0x2997, Ps), (0x2998, Pe), (0x2999, Sm), (0x29d8, Ps), (0x29d9, Pe), (0x29da, Ps),
  (0x29db, Pe), (0x29dc, Sm), (0x29fc, Ps), (0x29fd, Pe), (0x29fe, Sm), (0x2b00, So),
  (0x2b30, Sm), (0x2b45, So), (0x2b47, Sm), (0x2b4d, So), (0x2b74, Cn), (0x2b76, So),
  (0x2c00, Lu), (0x2c30, Ll), (0x2c60, Lu), (0x2c61, Ll), (0x2c62, Lu), (0x2c65, Ll),
  (0x2c67, Lu), (0x2c68, Ll), (0x2c69, Lu), (0x2c6a, Ll), (0x2c6b, Lu), (0x2c6c, Ll),
  (0x2c6d, Lu), (0x2c71, Ll), (0x2c72, Lu), (0x2c73, Ll), (0x2c75, Lu), (0x2c76, Ll),
  (0x2c7c, Lm), (0x2c7e, Lu), (0x2c81, Ll), (0x2c82, Lu), (0x2c83, Ll), (0x2c84, Lu),
  (0x2c85, Ll), (0x2c86, Lu), (0x2c87, Ll), (0x2c88, Lu), (0x2c89, Ll), (0x2c8a, Lu),
  (0x2c8b, Ll), (0x2c8c, Lu), (0x2c8d, Ll), (0x2c8e, Lu), (0x2c8f, Ll), (0x2c90, Lu),
  (0x2c91, Ll), (0x2c92, Lu), (0x2c93, Ll), (0x2c94, Lu), (0x2c95, Ll), (0x2c96, Lu),
  (0x2c97, Ll), (0x2c98, Lu), (0x2c99, Ll), (0x2c9a, Lu), (0x2c9b, Ll), (0x2c9c, Lu),
  (0x2c9d, Ll), (0x2c9e, Lu), (0x2c9f, Ll), (0x2ca0, Lu), (0x2ca1, Ll), (0x2ca2, Lu),
  (0x2ca3, Ll), (0x2ca4, Lu), (0x2ca5, Ll), (0x2ca6, Lu), (0x2ca7, Ll), (0x2ca8, Lu),
  (0x2ca9, Ll), (0x2caa, Lu), (0x2cab, Ll), (0x2cac, Lu)]

private def categoryPage13 : List (Nat × Category) := [
  (0x2cad, Ll), (0x2cae, Lu), (0x2caf, Ll), (0x2cb0, Lu), (0x2cb1, Ll), (0x2cb2, Lu),
  (0x2cb3, Ll), (0x2cb4, Lu), (0x2cb5, Ll), (0x2cb6, Lu), (0x2cb7, Ll), (0x2cb8, Lu),
  (0x2cb9, Ll), (0x2cba, Lu), (0x2cbb, Ll), (0x2cbc, Lu), (0x2cbd, Ll), (0x2cbe, Lu),
  (0x2cbf, Ll), (0x2cc0, Lu), (0x2cc1, Ll), (0x2cc2, Lu), (0x2cc3, Ll), (0x2cc4, Lu),
  (0x2cc5, Ll), (0x2cc6, Lu), (0x2cc7, Ll), (0x2cc8, Lu), (0x2cc9, Ll), (0x2cca, Lu),
  (0x2ccb, Ll), (0x2ccc, Lu), (0x2ccd, Ll), (0x2cce, Lu), (0x2ccf, Ll), (0x2cd0, Lu),
  (0x2cd1, Ll), (0x2cd2, Lu), (0x2cd3, Ll), (0x2cd4, Lu), (0x2cd5, Ll), (0x2cd6, Lu),
  (0x2cd7, Ll), (0x2cd8, Lu), (0x2cd9, Ll), (0x2cda, Lu), (0x2cdb, Ll), (0x2cdc, Lu),
  (0x2cdd, Ll), (0x2cde, Lu), (0x2cdf, Ll), (0x2ce0, Lu), (0x2ce1, Ll), (0x2ce2, Lu),
  (0x2ce3, Ll), (0x2ce5, So), (0x2ceb, Lu), (0x2cec, Ll), (0x2ced, Lu), (0x2cee, Ll),
  (0x2cef, Mn), (0x2cf2, Lu), (0x2cf3, Ll), (0x2cf4, Cn), (0x2cf9, Po), (0x2cfd, No),
  (0x2cfe, Po), (0x2d00, Ll), (0x2d26, Cn), (0x2d27, Ll), (0x2d28, Cn), (0x2d2d, Ll),
  (0x2d2e, Cn), (0x2d30, Lo), (0x2d68, Cn), (0x2d6f, Lm), (0x2d70, Po), (0x2d71, Cn),
  (0x2d7f, Mn), (0x2d80, Lo), (0x2d97, Cn), (0x2da0, Lo), (0x2da7, Cn), (0x2da8, Lo),
  (0x2daf, Cn), (0x2db0, Lo), (0x2db7, Cn), (0x2db8, Lo), (0x2dbf, Cn), (0x2dc0, Lo),
  (0x2dc7, Cn), (0x2dc8, Lo), (0x2dcf, Cn), (0x2dd0, Lo), (0x2dd7, Cn), (0x2dd8, Lo),
  (0x2ddf, Cn), (0x2de0, Mn), (0x2e00, Po), (0x2e02, Pi), (0x2e03, Pf), (0x2e04, Pi),
  (0x2e05, Pf), (0x2e06, Po), (0x2e09, Pi), (0x2e0a, Pf), (0x2e0b, Po), (0x2e0c, Pi),
  (0x2e0d, Pf), (0x2e0e, Po), (0x2e17, Pd), (0x2e18, Po), (0x2e1a, Pd), (0x2e1b, Po),
  (0x2e1c, Pi), (0x2e1d, Pf), (0x2e1e, Po), (0x2e20, Pi), (0x2e21, Pf), (0x2e22, Ps),
  (0x2e23, Pe), (0x2e24, Ps), (0x2e25, Pe), (0x2e26, Ps), (0x2e27, Pe), (0x2e28, Ps),
  (0x2e29, Pe), (0x2e2a, Po), (0x2e2f, Lm), (0x2e30, Po), (0x2e3a, Pd), (0x2e3c, Po),
  (0x2e40, Pd), (0x2e41, Po), (0x2e42, Ps), (0x2e43, Po), (0x2e50, So), (0x2e52, Po),
  (0x2e55, Ps), (0x2e56, Pe), (0x2e57, Ps), (0x2e58, Pe), (0x2e59, Ps), (0x2e5a, Pe),
  (0x2e5b, Ps), (0x2e5c, Pe), (0x2e5d, Pd), (0x2e5e, Cn), (0x2e80, So), (0x2e9a, Cn),
  (0x2e9b, So), (0x2ef4, Cn), (0x2f00, So), (0x2fd6, Cn), (0x2ff0, So), (0x3000, Zs),
  (0x3001, Po), (0x3004, So), (0x3005, Lm), (0x3006, Lo)]

private def categoryPage14 : List (Nat × Category) := [
  (0x3007, Nl), (0x3008, Ps), (0x3009, Pe), (0x300a, Ps), (0x300b, Pe), (0x300c, Ps),
  (0x300d, Pe), (0x300e, Ps), (0x300f, Pe), (0x3010, Ps), (0x3011, Pe), (0x3012, So),
  (0x3014, Ps), (0x3015, Pe), (0x3016, Ps), (0x3017, Pe), (0x3018, Ps), (0x3019, Pe),
  (0x301a, Ps), (0x301b, Pe), (0x301c, Pd), (0x301d, Ps), (0x301e, Pe), (0x3020, So),
  (0x3021, Nl), (0x302a, Mn), (0x302e, Mc), (0x3030, Pd), (0x3031, Lm), (0x3036, So),
  (0x3038, Nl), (0x303b, Lm), (0x303c, Lo), (0x303d, Po), (0x303e, So), (0x3040, Cn),
  (0x3041, Lo), (0x3097, Cn), (0x3099, Mn), (0x309b, Sk), (0x309d, Lm), (0x309f, Lo),
  (0x30a0, Pd), (0x30a1, Lo), (0x30fb, Po), (0x30fc, Lm), (0x30ff, Lo), (0x3100, Cn),
  (0x3105, Lo), (0x3130, Cn), (0x3131, Lo), (0x318f, Cn), (0x3190, So), (0x3192, No),
  (0x3196, So), (0x31a0, Lo), (0x31c0, So), (0x31e6, Cn), (0x31ef, So), (0x31f0, Lo),
  (0x3200, So), (0x321f, Cn), (0x3220, No), (0x322a, So), (0x3248, No), (0x3250, So),
  (0x3251, No), (0x3260, So), (0x3280, No), (0x328a, So), (0x32b1, No), (0x32c0, So),
  (0x3400, Lo), (0x4dc0, So), (0x4e00, Lo), (0xa015, Lm), (0xa016, Lo), (0xa48d, Cn),
  (0xa490, So), (0xa4c7, Cn), (0xa4d0, Lo), (0xa4f8, Lm), (0xa4fe, Po), (0xa500, Lo),
  (0xa60c, Lm), (0xa60d, Po), (0xa610, Lo), (0xa620, Nd), (0xa62a, Lo), (0xa62c, Cn),
  (0xa640, Lu), (0xa641, Ll), (0xa642, Lu), (0xa643, Ll), (0xa644, Lu), (0xa645, Ll),
  (0xa646, Lu), (0xa647, Ll), (0xa648, Lu), (0xa649, Ll), (0xa64a, Lu), (0xa64b, Ll),
  (0xa64c, Lu), (0xa64d, Ll), (0xa64e, Lu), (0xa64f, Ll), (0xa650, Lu), (0xa651, Ll),
  (0xa652, Lu), (0xa653, Ll), (0xa654, Lu), (0xa655, Ll), (0xa656, Lu), (0xa657, Ll),
  (0xa658, Lu), (0xa659, Ll), (0xa65a, Lu), (0xa65b, Ll), (0xa65c, Lu), (0xa65d, Ll),
  (0xa65e, Lu), (0xa65f, Ll), (0xa660, Lu), (0xa661, Ll), (0xa662, Lu), (0xa663, Ll),
  (0xa664, Lu), (0xa665, Ll), (0xa666, Lu), (0xa667, Ll), (0xa668, Lu), (0xa669, Ll),
  (0xa66a, Lu), (0xa66b, Ll), (0xa66c, Lu), (0xa66d, Ll), (0xa66e, Lo), (0xa66f, Mn),
  (0xa670, Me), (0xa673, Po), (0xa674, Mn), (0xa67e, Po), (0xa67f, Lm), (0xa680, Lu),
  (0xa681, Ll), (0xa682, Lu), (0xa683, Ll), (0xa684, Lu), (0xa685, Ll), (0xa686, Lu),
  (0xa687, Ll), (0xa688, Lu), (0xa689, Ll), (0xa68a, Lu), (0xa68b, Ll), (0xa68c, Lu),
  (0xa68d, Ll), (0xa68e, Lu), (0xa68f, Ll), (0xa690, Lu)]

private def categoryPage15 : List (Nat × Category) := [
  (0xa691, Ll), (0xa692, Lu), (0xa693, Ll), (0xa694, Lu), (0xa695, Ll), (0xa696, Lu),
  (0xa697, Ll), (0xa698, Lu), (0xa699, Ll), (0xa69a, Lu), (0xa69b, Ll), (0xa69c, Lm),
  (0xa69e, Mn), (0xa6a0, Lo), (0xa6e6, Nl), (0xa6f0, Mn), (0xa6f2, Po), (0xa6f8, Cn),
  (0xa700, Sk), (0xa717, Lm), (0xa720, Sk), (0xa722, Lu), (0xa723, Ll), (0xa724, Lu),
  (0xa725, Ll), (0xa726, Lu), (0xa727, Ll), (0xa728, Lu), (0xa729, Ll), (0xa72a, Lu),
  (0xa72b, Ll), (0xa72c, Lu), (0xa72d, Ll), (0xa72e, Lu), (0xa72f, Ll), (0xa732, Lu),
  (0xa733, Ll), (0xa734, Lu), (0xa735, Ll), (0xa736, Lu), (0xa737, Ll), (0xa738, Lu),
  (0xa739, Ll), (0xa73a, Lu), (0xa73b, Ll), (0xa73c, Lu), (0xa73d, Ll), (0xa73e, Lu),
  (0xa73f, Ll), (0xa740, Lu), (0xa741, Ll), (0xa742, Lu), (0xa743, Ll), (0xa744, Lu),
  (0xa745, Ll), (0xa746, Lu), (0xa747, Ll), (0xa748, Lu), (0xa749, Ll), (0xa74a, Lu),
  (0xa74b, Ll), (0xa74c, Lu), (0xa74d, Ll), (0xa74e, Lu), (0xa74f, Ll), (0xa750, Lu),
  (0xa751, Ll), (0xa752, Lu), (0xa753, Ll), (0xa754, Lu), (0xa755, Ll), (0xa756, Lu),
  (0xa757, Ll), (0xa758, Lu), (0xa759, Ll), (0xa75a, Lu), (0xa75b, Ll), (0xa75c, Lu),
  (0xa75d, Ll), (0xa75e, Lu), (0xa75f, Ll), (0xa760, Lu), (0xa761, Ll), (0xa762, Lu),
  (0xa763, Ll), (0xa764, Lu), (0xa765, Ll), (0xa766, Lu), (0xa767, Ll), (0xa768, Lu),
  (0xa769, Ll), (0xa76a, Lu), (0xa76b, Ll), (0xa76c, Lu), (0xa76d, Ll), (0xa76e, Lu),
  (0xa76f, Ll), (0xa770, Lm), (0xa771, Ll), (0xa779, Lu), (0xa77a, Ll), (0xa77b, Lu),
  (0xa77c, Ll), (0xa77d, Lu), (0xa77f, Ll), (0xa780, Lu), (0xa781, Ll), (0xa782, Lu),
  (0xa783, Ll), (0xa784, Lu), (0xa785, Ll), (0xa786, Lu), (0xa787, Ll), (0xa788, Lm),
  (0xa789, Sk), (0xa78b, Lu), (0xa78c, Ll), (0xa78d, Lu), (0xa78e, Ll), (0xa78f, Lo),
  (0xa790, Lu), (0xa791, Ll), (0xa792, Lu), (0xa793, Ll), (0xa796, Lu), (0xa797, Ll),
  (0xa798, Lu), (0xa799, Ll), (0xa79a, Lu), (0xa79b, Ll), (0xa79c, Lu), (0xa79d, Ll),
  (0xa79e, Lu), (0xa79f, Ll), (0xa7a0, Lu), (0xa7a1, Ll), (0xa7a2, Lu), (0xa7a3, Ll),
  (0xa7a4, Lu), (0xa7a5, Ll), (0xa7a6, Lu), (0xa7a7, Ll), (0xa7a8, Lu), (0xa7a9, Ll),
  (0xa7aa, Lu), (0xa7af, Ll), (0xa7b0, Lu), (0xa7b5, Ll), (0xa7b6, Lu), (0xa7b7, Ll),
  (0xa7b8, Lu), (0xa7b9, Ll), (0xa7ba, Lu), (0xa7bb, Ll), (0xa7bc, Lu), (0xa7bd, Ll),
  (0xa7be, Lu), (0xa7bf, Ll), (0xa7c0, Lu), (0xa7c1, Ll)]

private def categoryPage16 : List (Nat × Category) := [
  (0xa7c2, Lu), (0xa7c3, Ll), (0xa7c4, Lu), (0xa7c8, Ll), (0xa7c9, Lu), (0xa7ca, Ll),
  (0xa7cb, Lu), (0xa7cd, Ll), (0xa7ce, Lu), (0xa7cf, Ll), (0xa7d0, Lu), (0xa7d1, Ll),
  (0xa7d2, Lu), (0xa7d3, Ll), (0xa7d4, Lu), (0xa7d5, Ll), (0xa7d6, Lu), (0xa7d7, Ll),
  (0xa7d8, Lu), (0xa7d9, Ll), (0xa7da, Lu), (0xa7db, Ll), (0xa7dc, Lu), (0xa7dd, Cn),
  (0xa7f1, Lm), (0xa7f5, Lu), (0xa7f6, Ll), (0xa7f7, Lo), (0xa7f8, Lm), (0xa7fa, Ll),
  (0xa7fb, Lo), (0xa802, Mn), (0xa803, Lo), (0xa806, Mn), (0xa807, Lo), (0xa80b, Mn),
  (0xa80c, Lo), (0xa823, Mc), (0xa825, Mn), (0xa827, Mc), (0xa828, So), (0xa82c, Mn),
  (0xa82d, Cn), (0xa830, No), (0xa836, So), (0xa838, Sc), (0xa839, So), (0xa83a, Cn),
  (0xa840, Lo), (0xa874, Po), (0xa878, Cn), (0xa880, Mc), (0xa882, Lo), (0xa8b4, Mc),
  (0xa8c4, Mn), (0xa8c6, Cn), (0xa8ce, Po), (0xa8d0, Nd), (0xa8da, Cn), (0xa8e0, Mn),
  (0xa8f2, Lo), (0xa8f8, Po), (0xa8fb, Lo), (0xa8fc, Po), (0xa8fd, Lo), (0xa8ff, Mn),
  (0xa900, Nd), (0xa90a, Lo), (0xa926, Mn), (0xa92e, Po), (0xa930, Lo), (0xa947, Mn),
  (0xa952, Mc), (0xa954, Cn), (0xa95f, Po), (0xa960, Lo), (0xa97d, Cn), (0xa980, Mn),
  (0xa983, Mc), (0xa984, Lo), (0xa9b3, Mn), (0xa9b4, Mc), (0xa9b6, Mn), (0xa9ba, Mc),
  (0xa9bc, Mn), (0xa9be, Mc), (0xa9c1, Po), (0xa9ce, Cn), (0xa9cf, Lm), (0xa9d0, Nd),
  (0xa9da, Cn), (0xa9de, Po), (0xa9e0, Lo), (0xa9e5, Mn), (0xa9e6, Lm), (0xa9e7, Lo),
  (0xa9f0, Nd), (0xa9fa, Lo), (0xa9ff, Cn), (0xaa00, Lo), (0xaa29, Mn), (0xaa2f, Mc),
  (0xaa31, Mn), (0xaa33, Mc), (0xaa35, Mn), (0xaa37, Cn), (0xaa40, Lo), (0xaa43, Mn),
  (0xaa44, Lo), (0xaa4c, Mn), (0xaa4d, Mc), (0xaa4e, Cn), (0xaa50, Nd), (0xaa5a, Cn),
  (0xaa5c, Po), (0xaa60, Lo), (0xaa70, Lm), (0xaa71, Lo), (0xaa77, So), (0xaa7a, Lo),
  (0xaa7b, Mc), (0xaa7c, Mn), (0xaa7d, Mc), (0xaa7e, Lo), (0xaab0, Mn), (0xaab1, Lo),
  (0xaab2, Mn), (0xaab5, Lo), (0xaab7, Mn), (0xaab9, Lo), (0xaabe, Mn), (0xaac0, Lo),
  (0xaac1, Mn), (0xaac2, Lo), (0xaac3, Cn), (0xaadb, Lo), (0xaadd, Lm), (0xaade, Po),
  (0xaae0, Lo), (0xaaeb, Mc), (0xaaec, Mn), (0xaaee, Mc), (0xaaf0, Po), (0xaaf2, Lo),
  (0xaaf3, Lm), (0xaaf5, Mc), (0xaaf6, Mn), (0xaaf7, Cn), (0xab01, Lo), (0xab07, Cn),
  (0xab09, Lo), (0xab0f, Cn), (0xab11, Lo), (0xab17, Cn), (0xab20, Lo), (0xab27, Cn),
  (0xab28, Lo), (0xab2f, Cn), (0xab30, Ll), (0xab5b, Sk)]

private def categoryPage17 : List (Nat × Category) := [
  (0xab5c, Lm), (0xab60, Ll), (0xab69, Lm), (0xab6a, Sk), (0xab6c, Cn), (0xab70, Ll),
  (0xabc0, Lo), (0xabe3, Mc), (0xabe5, Mn), (0xabe6, Mc), (0xabe8, Mn), (0xabe9, Mc),
  (0xabeb, Po), (0xabec, Mc), (0xabed, Mn), (0xabee, Cn), (0xabf0, Nd), (0xabfa, Cn),
  (0xac00, Lo), (0xd7a4, Cn), (0xd7b0, Lo), (0xd7c7, Cn), (0xd7cb, Lo), (0xd7fc, Cn),
  (0xd800, Cs), (0xe000, Co), (0xf900, Lo), (0xfa6e, Cn), (0xfa70, Lo), (0xfada, Cn),
  (0xfb00, Ll), (0xfb07, Cn), (0xfb13, Ll), (0xfb18, Cn), (0xfb1d, Lo), (0xfb1e, Mn),
  (0xfb1f, Lo), (0xfb29, Sm), (0xfb2a, Lo), (0xfb37, Cn), (0xfb38, Lo), (0xfb3d, Cn),
  (0xfb3e, Lo), (0xfb3f, Cn), (0xfb40, Lo), (0xfb42, Cn), (0xfb43, Lo), (0xfb45, Cn),
  (0xfb46, Lo), (0xfbb2, Sk), (0xfbc3, So), (0xfbd3, Lo), (0xfd3e, Pe), (0xfd3f, Ps),
  (0xfd40, So), (0xfd50, Lo), (0xfd90, So), (0xfd92, Lo), (0xfdc8, So), (0xfdd0, Cn),
  (0xfdf0, Lo), (0xfdfc, Sc), (0xfdfd, So), (0xfe00, Mn), (0xfe10, Po), (0xfe17, Ps),
  (0xfe18, Pe), (0xfe19, Po), (0xfe1a, Cn), (0xfe20, Mn), (0xfe30, Po), (0xfe31, Pd),
  (0xfe33, Pc), (0xfe35, Ps), (0xfe36, Pe), (0xfe37, Ps), (0xfe38, Pe), (0xfe39, Ps),
  (0xfe3a, Pe), (0xfe3b, Ps), (0xfe3c, Pe), (0xfe3d, Ps), (0xfe3e, Pe), (0xfe3f, Ps),
  (0xfe40, Pe), (0xfe41, Ps), (0xfe42, Pe), (0xfe43, Ps), (0xfe44, Pe), (0xfe45, Po),
  (0xfe47, Ps), (0xfe48, Pe), (0xfe49, Po), (0xfe4d, Pc), (0xfe50, Po), (0xfe53, Cn),
  (0xfe54, Po), (0xfe58, Pd), (0xfe59, Ps), (0xfe5a, Pe), (0xfe5b, Ps), (0xfe5c, Pe),
  (0xfe5d, Ps), (0xfe5e, Pe), (0xfe5f, Po), (0xfe62, Sm), (0xfe63, Pd), (0xfe64, Sm),
  (0xfe67, Cn), (0xfe68, Po), (0xfe69, Sc), (0xfe6a, Po), (0xfe6c, Cn), (0xfe70, Lo),
  (0xfe75, Cn), (0xfe76, Lo), (0xfefd, Cn), (0xfeff, Cf), (0xff00, Cn), (0xff01, Po),
  (0xff04, Sc), (0xff05, Po), (0xff08, Ps), (0xff09, Pe), (0xff0a, Po), (0xff0b, Sm),
  (0xff0c, Po), (0xff0d, Pd), (0xff0e, Po), (0xff10, Nd), (0xff1a, Po), (0xff1c, Sm),
  (0xff1f, Po), (0xff21, Lu), (0xff3b, Ps), (0xff3c, Po), (0xff3d, Pe), (0xff3e, Sk),
  (0xff3f, Pc), (0xff40, Sk), (0xff41, Ll), (0xff5b, Ps), (0xff5c, Sm), (0xff5d, Pe),
  (0xff5e, Sm), (0xff5f, Ps), (0xff60, Pe), (0xff61, Po), (0xff62, Ps), (0xff63, Pe),
  (0xff64, Po), (0xff66, Lo), (0xff70, Lm), (0xff71, Lo), (0xff9e, Lm), (0xffa0, Lo),
  (0xffbf, Cn), (0xffc2, Lo), (0xffc8, Cn), (0xffca, Lo)]

private def categoryPage18 : List (Nat × Category) := [
  (0xffd0, Cn), (0xffd2, Lo), (0xffd8, Cn), (0xffda, Lo), (0xffdd, Cn), (0xffe0, Sc),
  (0xffe2, Sm), (0xffe3, Sk), (0xffe4, So), (0xffe5, Sc), (0xffe7, Cn), (0xffe8, So),
  (0xffe9, Sm), (0xffed, So), (0xffef, Cn), (0xfff9, Cf), (0xfffc, So), (0xfffe, Cn),
  (0x10000, Lo), (0x1000c, Cn), (0x1000d, Lo), (0x10027, Cn), (0x10028, Lo), (0x1003b, Cn),
  (0x1003c, Lo), (0x1003e, Cn), (0x1003f, Lo), (0x1004e, Cn), (0x10050, Lo), (0x1005e, Cn),
  (0x10080, Lo), (0x100fb, Cn), (0x10100, Po), (0x10103, Cn), (0x10107, No), (0x10134, Cn),
  (0x10137, So), (0x10140, Nl), (0x10175, No), (0x10179, So), (0x1018a, No), (0x1018c, So),
  (0x1018f, Cn), (0x10190, So), (0x1019d, Cn), (0x101a0, So), (0x101a1, Cn), (0x101d0, So),
  (0x101fd, Mn), (0x101fe, Cn), (0x10280, Lo), (0x1029d, Cn), (0x102a0, Lo), (0x102d1, Cn),
  (0x102e0, Mn), (0x102e1, No), (0x102fc, Cn), (0x10300, Lo), (0x10320, No), (0x10324, Cn),
  (0x1032d, Lo), (0x10341, Nl), (0x10342, Lo), (0x1034a, Nl), (0x1034b, Cn), (0x10350, Lo),
  (0x10376, Mn), (0x1037b, Cn), (0x10380, Lo), (0x1039e, Cn), (0x1039f, Po), (0x103a0, Lo),
  (0x103c4, Cn), (0x103c8, Lo), (0x103d0, Po), (0x103d1, Nl), (0x103d6, Cn), (0x10400, Lu),
  (0x10428, Ll), (0x10450, Lo), (0x1049e, Cn), (0x104a0, Nd), (0x104aa, Cn), (0x104b0, Lu),
  (0x104d4, Cn), (0x104d8, Ll), (0x104fc, Cn), (0x10500, Lo), (0x10528, Cn), (0x10530, Lo),
  (0x10564, Cn), (0x1056f, Po), (0x10570, Lu), (0x1057b, Cn), (0x1057c, Lu), (0x1058b, Cn),
  (0x1058c, Lu), (0x10593, Cn), (0x10594, Lu), (0x10596, Cn), (0x10597, Ll), (0x105a2, Cn),
  (0x105a3, Ll), (0x105b2, Cn), (0x105b3, Ll), (0x105ba, Cn), (0x105bb, Ll), (0x105bd, Cn),
  (0x105c0, Lo), (0x105f4, Cn), (0x10600, Lo), (0x10737, Cn), (0x10740, Lo), (0x10756, Cn),
  (0x10760, Lo), (0x10768, Cn), (0x10780, Lm), (0x10786, Cn), (0x10787, Lm), (0x107b1, Cn),
  (0x107b2, Lm), (0x107bb, Cn), (0x10800, Lo), (0x10806, Cn), (0x10808, Lo), (0x10809, Cn),
  (0x1080a, Lo), (0x10836, Cn), (0x10837, Lo), (0x10839, Cn), (0x1083c, Lo), (0x1083d, Cn),
  (0x1083f, Lo), (0x10856, Cn), (0x10857, Po), (0x10858, No), (0x10860, Lo), (0x10877, So),
  (0x10879, No), (0x10880, Lo), (0x1089f, Cn), (0x108a7, No), (0x108b0, Cn), (0x108e0, Lo),
  (0x108f3, Cn), (0x108f4, Lo), (0x108f6, Cn), (0x108fb, No), (0x10900, Lo), (0x10916, No),
  (0x1091c, Cn), (0x1091f, Po), (0x10920, Lo), (0x1093a, Cn), (0x1093f, Po), (0x10940, Lo),
  (0x1095a, Cn), (0x10980, Lo), (0x109b8, Cn), (0x109bc, No)]

private def categoryPage19 : List (Nat × Category) := [
  (0x109be, Lo), (0x109c0, No), (0x109d0, Cn), (0x109d2, No), (0x10a00, Lo), (0x10a01, Mn),
  (0x10a04, Cn), (0x10a05, Mn), (0x10a07, Cn), (0x10a0c, Mn), (0x10a10, Lo), (0x10a14, Cn),
  (0x10a15, Lo), (0x10a18, Cn), (0x10a19, Lo), (0x10a36, Cn), (0x10a38, Mn), (0x10a3b, Cn),
  (0x10a3f, Mn), (0x10a40, No), (0x10a49, Cn), (0x10a50, Po), (0x10a59, Cn), (0x10a60, Lo),
  (0x10a7d, No), (0x10a7f, Po), (0x10a80, Lo), (0x10a9d, No), (0x10aa0, Cn), (0x10ac0, Lo),
  (0x10ac8, So), (0x10ac9, Lo), (0x10ae5, Mn), (0x10ae7, Cn), (0x10aeb, No), (0x10af0, Po),
  (0x10af7, Cn), (0x10b00, Lo), (0x10b36, Cn), (0x10b39, Po), (0x10b40, Lo), (0x10b56, Cn),
  (0x10b58, No), (0x10b60, Lo), (0x10b73, Cn), (0x10b78, No), (0x10b80, Lo), (0x10b92, Cn),
  (0x10b99, Po), (0x10b9d, Cn), (0x10ba9, No), (0x10bb0, Cn), (0x10c00, Lo), (0x10c49, Cn),
  (0x10c80, Lu), (0x10cb3, Cn), (0x10cc0, Ll), (0x10cf3, Cn), (0x10cfa, No), (0x10d00, Lo),
  (0x10d24, Mn), (0x10d28, Cn), (0x10d30, Nd), (0x10d3a, Cn), (0x10d40, Nd), (0x10d4a, Lo),
  (0x10d4e, Lm), (0x10d4f, Lo), (0x10d50, Lu), (0x10d66, Cn), (0x10d69, Mn), (0x10d6e, Pd),
  (0x10d6f, Lm), (0x10d70, Ll), (0x10d86, Cn), (0x10d8e, Sm), (0x10d90, Cn), (0x10e60, No),
  (0x10e7f, Cn), (0x10e80, Lo), (0x10eaa, Cn), (0x10eab, Mn), (0x10ead, Pd), (0x10eae, Cn),
  (0x10eb0, Lo), (0x10eb2, Cn), (0x10ec2, Lo), (0x10ec5, Lm), (0x10ec6, Lo), (0x10ec8, Cn),
  (0x10ed0, Po), (0x10ed1, So), (0x10ed9, Cn), (0x10efa, Mn), (0x10f00, Lo), (0x10f1d, No),
  (0x10f27, Lo), (0x10f28, Cn), (0x10f30, Lo), (0x10f46, Mn), (0x10f51, No), (0x10f55, Po),
  (0x10f5a, Cn), (0x10f70, Lo), (0x10f82, Mn), (0x10f86, Po), (0x10f8a, Cn), (0x10fb0, Lo),
  (0x10fc5, No), (0x10fcc, Cn), (0x10fe0, Lo), (0x10ff7, Cn), (0x11000, Mc), (0x11001, Mn),
  (0x11002, Mc), (0x11003, Lo), (0x11038, Mn), (0x11047, Po), (0x1104e, Cn), (0x11052, No),
  (0x11066, Nd), (0x11070, Mn), (0x11071, Lo), (0x11073, Mn), (0x11075, Lo), (0x11076, Cn),
  (0x1107f, Mn), (0x11082, Mc), (0x11083, Lo), (0x110b0, Mc), (0x110b3, Mn), (0x110b7, Mc),
  (0x110b9, Mn), (0x110bb, Po), (0x110bd, Cf), (0x110be, Po), (0x110c2, Mn), (0x110c3, Cn),
  (0x110cd, Cf), (0x110ce, Cn), (0x110d0, Lo), (0x110e9, Cn), (0x110f0, Nd), (0x110fa, Cn),
  (0x11100, Mn), (0x11103, Lo), (0x11127, Mn), (0x1112c, Mc), (0x1112d, Mn), (0x11135, Cn),
  (0x11136, Nd), (0x11140, Po), (0x11144, Lo), (0x11145, Mc), (0x11147, Lo), (0x11148, Cn),
  (0x11150, Lo), (0x11173, Mn), (0x11174, Po), (0x11176, Lo)]

private def categoryPage20 : List (Nat × Category) := [
  (0x11177, Cn), (0x11180, Mn), (0x11182, Mc), (0x11183, Lo), (0x111b3, Mc), (0x111b6, Mn),
  (0x111bf, Mc), (0x111c1, Lo), (0x111c5, Po), (0x111c9, Mn), (0x111cd, Po), (0x111ce, Mc),
  (0x111cf, Mn), (0x111d0, Nd), (0x111da, Lo), (0x111db, Po), (0x111dc, Lo), (0x111dd, Po),
  (0x111e0, Cn), (0x111e1, No), (0x111f5, Cn), (0x11200, Lo), (0x11212, Cn), (0x11213, Lo),
  (0x1122c, Mc), (0x1122f, Mn), (0x11232, Mc), (0x11234, Mn), (0x11235, Mc), (0x11236, Mn),
  (0x11238, Po), (0x1123e, Mn), (0x1123f, Lo), (0x11241, Mn), (0x11242, Cn), (0x11280, Lo),
  (0x11287, Cn), (0x11288, Lo), (0x11289, Cn), (0x1128a, Lo), (0x1128e, Cn), (0x1128f, Lo),
  (0x1129e, Cn), (0x1129f, Lo), (0x112a9, Po), (0x112aa, Cn), (0x112b0, Lo), (0x112df, Mn),
  (0x112e0, Mc), (0x112e3, Mn), (0x112eb, Cn), (0x112f0, Nd), (0x112fa, Cn), (0x11300, Mn),
  (0x11302, Mc), (0x11304, Cn), (0x11305, Lo), (0x1130d, Cn), (0x1130f, Lo), (0x11311, Cn),
  (0x11313, Lo), (0x11329, Cn), (0x1132a, Lo), (0x11331, Cn), (0x11332, Lo), (0x11334, Cn),
  (0x11335, Lo), (0x1133a, Cn), (0x1133b, Mn), (0x1133d, Lo), (0x1133e, Mc), (0x11340, Mn),
  (0x11341, Mc), (0x11345, Cn), (0x11347, Mc), (0x11349, Cn), (0x1134b, Mc), (0x1134e, Cn),
  (0x11350, Lo), (0x11351, Cn), (0x11357, Mc), (0x11358, Cn), (0x1135d, Lo), (0x11362, Mc),
  (0x11364, Cn), (0x11366, Mn), (0x1136d, Cn), (0x11370, Mn), (0x11375, Cn), (0x11380, Lo),
  (0x1138a, Cn), (0x1138b, Lo), (0x1138c, Cn), (0x1138e, Lo), (0x1138f, Cn), (0x11390, Lo),
  (0x113b6, Cn), (0x113b7, Lo), (0x113b8, Mc), (0x113bb, Mn), (0x113c1, Cn), (0x113c2, Mc),
  (0x113c3, Cn), (0x113c5, Mc), (0x113c6, Cn), (0x113c7, Mc), (0x113cb, Cn), (0x113cc, Mc),
  (0x113ce, Mn), (0x113cf, Mc), (0x113d0, Mn), (0x113d1, Lo), (0x113d2, Mn), (0x113d3, Lo),
  (0x113d4, Po), (0x113d6, Cn), (0x113d7, Po), (0x113d9, Cn), (0x113e1, Mn), (0x113e3, Cn),
  (0x11400, Lo), (0x11435, Mc), (0x11438, Mn), (0x11440, Mc), (0x11442, Mn), (0x11445, Mc),
  (0x11446, Mn), (0x11447, Lo), (0x1144b, Po), (0x11450, Nd), (0x1145a, Po), (0x1145c, Cn),
  (0x1145d, Po), (0x1145e, Mn), (0x1145f, Lo), (0x11462, Cn), (0x11480, Lo), (0x114b0, Mc),
  (0x114b3, Mn), (0x114b9, Mc), (0x114ba, Mn), (0x114bb, Mc), (0x114bf, Mn), (0x114c1, Mc),
  (0x114c2, Mn), (0x114c4, Lo), (0x114c6, Po), (0x114c7, Lo), (0x114c8, Cn), (0x114d0, Nd),
  (0x114da, Cn), (0x11580, Lo), (0x115af, Mc), (0x115b2, Mn), (0x115b6, Cn), (0x115b8, Mc),
  (0x115bc, Mn), (0x115be, Mc), (0x115bf, Mn), (0x115c1, Po)]

private def categoryPage21 : List (Nat × Category) := [
  (0x115d8, Lo), (0x115dc, Mn), (0x115de, Cn), (0x11600, Lo), (0x11630, Mc), (0x11633, Mn),
  (0x1163b, Mc), (0x1163d, Mn), (0x1163e, Mc), (0x1163f, Mn), (0x11641, Po), (0x11644, Lo),
  (0x11645, Cn), (0x11650, Nd), (0x1165a, Cn), (0x11660, Po), (0x1166d, Cn), (0x11680, Lo),
  (0x116ab, Mn), (0x116ac, Mc), (0x116ad, Mn), (0x116ae, Mc), (0x116b0, Mn), (0x116b6, Mc),
  (0x116b7, Mn), (0x116b8, Lo), (0x116b9, Po), (0x116ba, Cn), (0x116c0, Nd), (0x116ca, Cn),
  (0x116d0, Nd), (0x116e4, Cn), (0x11700, Lo), (0x1171b, Cn), (0x1171d, Mn), (0x1171e, Mc),
  (0x1171f, Mn), (0x11720, Mc), (0x11722, Mn), (0x11726, Mc), (0x11727, Mn), (0x1172c, Cn),
  (0x11730, Nd), (0x1173a, No), (0x1173c, Po), (0x1173f, So), (0x11740, Lo), (0x11747, Cn),
  (0x11800, Lo), (0x1182c, Mc), (0x1182f, Mn), (0x11838, Mc), (0x11839, Mn), (0x1183b, Po),
  (0x1183c, Cn), (0x118a0, Lu), (0x118c0, Ll), (0x118e0, Nd), (0x118ea, No), (0x118f3, Cn),
  (0x118ff, Lo), (0x11907, Cn), (0x11909, Lo), (0x1190a, Cn), (0x1190c, Lo), (0x11914, Cn),
  (0x11915, Lo), (0x11917, Cn), (0x11918, Lo), (0x11930, Mc), (0x11936, Cn), (0x11937, Mc),
  (0x11939, Cn), (0x1193b, Mn), (0x1193d, Mc), (0x1193e, Mn), (0x1193f, Lo), (0x11940, Mc),
  (0x11941, Lo), (0x11942, Mc), (0x11943, Mn), (0x11944, Po), (0x11947, Cn), (0x11950, Nd),
  (0x1195a, Cn), (0x119a0, Lo), (0x119a8, Cn), (0x119aa, Lo), (0x119d1, Mc), (0x119d4, Mn),
  (0x119d8, Cn), (0x119da, Mn), (0x119dc, Mc), (0x119e0, Mn), (0x119e1, Lo), (0x119e2, Po),
  (0x119e3, Lo), (0x119e4, Mc), (0x119e5, Cn), (0x11a00, Lo), (0x11a01, Mn), (0x11a0b, Lo),
  (0x11a33, Mn), (0x11a39, Mc), (0x11a3a, Lo), (0x11a3b, Mn), (0x11a3f, Po), (0x11a47, Mn),
  (0x11a48, Cn), (0x11a50, Lo), (0x11a51, Mn), (0x11a57, Mc), (0x11a59, Mn), (0x11a5c, Lo),
  (0x11a8a, Mn), (0x11a97, Mc), (0x11a98, Mn), (0x11a9a, Po), (0x11a9d, Lo), (0x11a9e, Po),
  (0x11aa3, Cn), (0x11ab0, Lo), (0x11af9, Cn), (0x11b00, Po), (0x11b0a, Cn), (0x11b60, Mn),
  (0x11b61, Mc), (0x11b62, Mn), (0x11b65, Mc), (0x11b66, Mn), (0x11b67, Mc), (0x11b68, Cn),
  (0x11bc0, Lo), (0x11be1, Po), (0x11be2, Cn), (0x11bf0, Nd), (0x11bfa, Cn), (0x11c00, Lo),
  (0x11c09, Cn), (0x11c0a, Lo), (0x11c2f, Mc), (0x11c30, Mn), (0x11c37, Cn), (0x11c38, Mn),
  (0x11c3e, Mc), (0x11c3f, Mn), (0x11c40, Lo), (0x11c41, Po), (0x11c46, Cn), (0x11c50, Nd),
  (0x11c5a, No), (0x11c6d, Cn), (0x11c70, Po), (0x11c72, Lo), (0x11c90, Cn), (0x11c92, Mn),
  (0x11ca8, Cn), (0x11ca9, Mc), (0x11caa, Mn), (0x11cb1, Mc)]

private def categoryPage22 : List (Nat × Category) := [
  (0x11cb2, Mn), (0x11cb4, Mc), (0x11cb5, Mn), (0x11cb7, Cn), (0x11d00, Lo), (0x11d07, Cn),
  (0x11d08, Lo), (0x11d0a, Cn), (0x11d0b, Lo), (0x11d31, Mn), (0x11d37, Cn), (0x11d3a, Mn),
  (0x11d3b, Cn), (0x11d3c, Mn), (0x11d3e, Cn), (0x11d3f, Mn), (0x11d46, Lo), (0x11d47, Mn),
  (0x11d48, Cn), (0x11d50, Nd), (0x11d5a, Cn), (0x11d60, Lo), (0x11d66, Cn), (0x11d67, Lo),
  (0x11d69, Cn), (0x11d6a, Lo), (0x11d8a, Mc), (0x11d8f, Cn), (0x11d90, Mn), (0x11d92, Cn),
  (0x11d93, Mc), (0x11d95, Mn), (0x11d96, Mc), (0x11d97, Mn), (0x11d98, Lo), (0x11d99, Cn),
  (0x11da0, Nd), (0x11daa, Cn), (0x11db0, Lo), (0x11dd9, Lm), (0x11dda, Lo), (0x11ddc, Cn),
  (0x11de0, Nd), (0x11dea, Cn), (0x11ee0, Lo), (0x11ef3, Mn), (0x11ef5, Mc), (0x11ef7, Po),
  (0x11ef9, Cn), (0x11f00, Mn), (0x11f02, Lo), (0x11f03, Mc), (0x11f04, Lo), (0x11f11, Cn),
  (0x11f12, Lo), (0x11f34, Mc), (0x11f36, Mn), (0x11f3b, Cn), (0x11f3e, Mc), (0x11f40, Mn),
  (0x11f41, Mc), (0x11f42, Mn), (0x11f43, Po), (0x11f50, Nd), (0x11f5a, Mn), (0x11f5b, Cn),
  (0x11fb0, Lo), (0x11fb1, Cn), (0x11fc0, No), (0x11fd5, So), (0x11fdd, Sc), (0x11fe1, So),
  (0x11ff2, Cn), (0x11fff, Po), (0x12000, Lo), (0x1239a, Cn), (0x12400, Nl), (0x1246f, Cn),
  (0x12470, Po), (0x12475, Cn), (0x12480, Lo), (0x12544, Cn), (0x12f90, Lo), (0x12ff1, Po),
  (0x12ff3, Cn), (0x13000, Lo), (0x13430, Cf), (0x13440, Mn), (0x13441, Lo), (0x13447, Mn),
  (0x13456, Cn), (0x13460, Lo), (0x143fb, Cn), (0x14400, Lo), (0x14647, Cn), (0x16100, Lo),
  (0x1611e, Mn), (0x1612a, Mc), (0x1612d, Mn), (0x16130, Nd), (0x1613a, Cn), (0x16800, Lo),
  (0x16a39, Cn), (0x16a40, Lo), (0x16a5f, Cn), (0x16a60, Nd), (0x16a6a, Cn), (0x16a6e, Po),
  (0x16a70, Lo), (0x16abf, Cn), (0x16ac0, Nd), (0x16aca, Cn), (0x16ad0, Lo), (0x16aee, Cn),
  (0x16af0, Mn), (0x16af5, Po), (0x16af6, Cn), (0x16b00, Lo), (0x16b30, Mn), (0x16b37, Po),
  (0x16b3c, So), (0x16b40, Lm), (0x16b44, Po), (0x16b45, So), (0x16b46, Cn), (0x16b50, Nd),
  (0x16b5a, Cn), (0x16b5b, No), (0x16b62, Cn), (0x16b63, Lo), (0x16b78, Cn), (0x16b7d, Lo),
  (0x16b90, Cn), (0x16d40, Lm), (0x16d43, Lo), (0x16d6b, Lm), (0x16d6d, Po), (0x16d70, Nd),
  (0x16d7a, Cn), (0x16e40, Lu), (0x16e60, Ll), (0x16e80, No), (0x16e97, Po), (0x16e9b, Cn),
  (0x16ea0, Lu), (0x16eb9, Cn), (0x16ebb, Ll), (0x16ed4, Cn), (0x16f00, Lo), (0x16f4b, Cn),
  (0x16f4f, Mn), (0x16f50, Lo), (0x16f51, Mc), (0x16f88, Cn), (0x16f8f, Mn), (0x16f93, Lm),
  (0x16fa0, Cn), (0x16fe0, Lm), (0x16fe2, Po), (0x16fe3, Lm)]

private def categoryPage23 : List (Nat × Category) := [
  (0x16fe4, Mn), (0x16fe5, Cn), (0x16ff0, Mc), (0x16ff2, Lm), (0x16ff4, Nl), (0x16ff7, Cn),
  (0x17000, Lo), (0x18cd6, Cn), (0x18cff, Lo), (0x18d1f, Cn), (0x18d80, Lo), (0x18df3, Cn),
  (0x1aff0, Lm), (0x1aff4, Cn), (0x1aff5, Lm), (0x1affc, Cn), (0x1affd, Lm), (0x1afff, Cn),
  (0x1b000, Lo), (0x1b123, Cn), (0x1b132, Lo), (0x1b133, Cn), (0x1b150, Lo), (0x1b153, Cn),
  (0x1b155, Lo), (0x1b156, Cn), (0x1b164, Lo), (0x1b168, Cn), (0x1b170, Lo), (0x1b2fc, Cn),
  (0x1bc00, Lo), (0x1bc6b, Cn), (0x1bc70, Lo), (0x1bc7d, Cn), (0x1bc80, Lo), (0x1bc89, Cn),
  (0x1bc90, Lo), (0x1bc9a, Cn), (0x1bc9c, So), (0x1bc9d, Mn), (0x1bc9f, Po), (0x1bca0, Cf),
  (0x1bca4, Cn), (0x1cc00, So), (0x1ccf0, Nd), (0x1ccfa, So), (0x1ccfd, Cn), (0x1cd00, So),
  (0x1ceb4, Cn), (0x1ceba, So), (0x1ced1, Cn), (0x1cee0, So), (0x1cef0, Sm), (0x1cef1, Cn),
  (0x1cf00, Mn), (0x1cf2e, Cn), (0x1cf30, Mn), (0x1cf47, Cn), (0x1cf50, So), (0x1cfc4, Cn),
  (0x1d000, So), (0x1d0f6, Cn), (0x1d100, So), (0x1d127, Cn), (0x1d129, So), (0x1d165, Mc),
  (0x1d167, Mn), (0x1d16a, So), (0x1d16d, Mc), (0x1d173, Cf), (0x1d17b, Mn), (0x1d183, So),
  (0x1d185, Mn), (0x1d18c, So), (0x1d1aa, Mn), (0x1d1ae, So), (0x1d1eb, Cn), (0x1d200, So),
  (0x1d242, Mn), (0x1d245, So), (0x1d246, Cn), (0x1d2c0, No), (0x1d2d4, Cn), (0x1d2e0, No),
  (0x1d2f4, Cn), (0x1d300, So), (0x1d357, Cn), (0x1d360, No), (0x1d379, Cn), (0x1d400, Lu),
  (0x1d41a, Ll), (0x1d434, Lu), (0x1d44e, Ll), (0x1d455, Cn), (0x1d456, Ll), (0x1d468, Lu),
  (0x1d482, Ll), (0x1d49c, Lu), (0x1d49d, Cn), (0x1d49e, Lu), (0x1d4a0, Cn), (0x1d4a2, Lu),
  (0x1d4a3, Cn), (0x1d4a5, Lu), (0x1d4a7, Cn), (0x1d4a9, Lu), (0x1d4ad, Cn), (0x1d4ae, Lu),
  (0x1d4b6, Ll), (0x1d4ba, Cn), (0x1d4bb, Ll), (0x1d4bc, Cn), (0x1d4bd, Ll), (0x1d4c4, Cn),
  (0x1d4c5, Ll), (0x1d4d0, Lu), (0x1d4ea, Ll), (0x1d504, Lu), (0x1d506, Cn), (0x1d507, Lu),
  (0x1d50b, Cn), (0x1d50d, Lu), (0x1d515, Cn), (0x1d516, Lu), (0x1d51d, Cn), (0x1d51e, Ll),
  (0x1d538, Lu), (0x1d53a, Cn), (0x1d53b, Lu), (0x1d53f, Cn), (0x1d540, Lu), (0x1d545, Cn),
  (0x1d546, Lu), (0x1d547, Cn), (0x1d54a, Lu), (0x1d551, Cn), (0x1d552, Ll), (0x1d56c, Lu),
  (0x1d586, Ll), (0x1d5a0, Lu), (0x1d5ba, Ll), (0x1d5d4, Lu), (0x1d5ee, Ll), (0x1d608, Lu),
  (0x1d622, Ll), (0x1d63c, Lu), (0x1d656, Ll), (0x1d670, Lu), (0x1d68a, Ll), (0x1d6a6, Cn),
  (0x1d6a8, Lu), (0x1d6c1, Sm), (0x1d6c2, Ll), (0x1d6db, Sm), (0x1d6dc, Ll), (0x1d6e2, Lu),
  (0x1d6fb, Sm), (0x1d6fc, Ll), (0x1d715, Sm), (0x1d716, Ll)]

private def categoryPage24 : List (Nat × Category) := [
  (0x1d71c, Lu), (0x1d735, Sm), (0x1d736, Ll), (0x1d74f, Sm), (0x1d750, Ll), (0x1d756, Lu),
  (0x1d76f, Sm), (0x1d770, Ll), (0x1d789, Sm), (0x1d78a, Ll), (0x1d790, Lu), (0x1d7a9, Sm),
  (0x1d7aa, Ll), (0x1d7c3, Sm), (0x1d7c4, Ll), (0x1d7ca, Lu), (0x1d7cb, Ll), (0x1d7cc, Cn),
  (0x1d7ce, Nd), (0x1d800, So), (0x1da00, Mn), (0x1da37, So), (0x1da3b, Mn), (0x1da6d, So),
  (0x1da75, Mn), (0x1da76, So), (0x1da84, Mn), (0x1da85, So), (0x1da87, Po), (0x1da8c, Cn),
  (0x1da9b, Mn), (0x1daa0, Cn), (0x1daa1, Mn), (0x1dab0, Cn), (0x1df00, Ll), (0x1df0a, Lo),
  (0x1df0b, Ll), (0x1df1f, Cn), (0x1df25, Ll), (0x1df2b, Cn), (0x1e000, Mn), (0x1e007, Cn),
  (0x1e008, Mn), (0x1e019, Cn), (0x1e01b, Mn), (0x1e022, Cn), (0x1e023, Mn), (0x1e025, Cn),
  (0x1e026, Mn), (0x1e02b, Cn), (0x1e030, Lm), (0x1e06e, Cn), (0x1e08f, Mn), (0x1e090, Cn),
  (0x1e100, Lo), (0x1e12d, Cn), (0x1e130, Mn), (0x1e137, Lm), (0x1e13e, Cn), (0x1e140, Nd),
  (0x1e14a, Cn), (0x1e14e, Lo), (0x1e14f, So), (0x1e150, Cn), (0x1e290, Lo), (0x1e2ae, Mn),
  (0x1e2af, Cn), (0x1e2c0, Lo), (0x1e2ec, Mn), (0x1e2f0, Nd), (0x1e2fa, Cn), (0x1e2ff, Sc),
  (0x1e300, Cn), (0x1e4d0, Lo), (0x1e4eb, Lm), (0x1e4ec, Mn), (0x1e4f0, Nd), (0x1e4fa, Cn),
  (0x1e5d0, Lo), (0x1e5ee, Mn), (0x1e5f0, Lo), (0x1e5f1, Nd), (0x1e5fb, Cn), (0x1e5ff, Po),
  (0x1e600, Cn), (0x1e6c0, Lo), (0x1e6df, Cn), (0x1e6e0, Lo), (0x1e6e3, Mn), (0x1e6e4, Lo),
  (0x1e6e6, Mn), (0x1e6e7, Lo), (0x1e6ee, Mn), (0x1e6f0, Lo), (0x1e6f5, Mn), (0x1e6f6, Cn),
  (0x1e6fe, Lo), (0x1e6ff, Lm), (0x1e700, Cn), (0x1e7e0, Lo), (0x1e7e7, Cn), (0x1e7e8, Lo),
  (0x1e7ec, Cn), (0x1e7ed, Lo), (0x1e7ef, Cn), (0x1e7f0, Lo), (0x1e7ff, Cn), (0x1e800, Lo),
  (0x1e8c5, Cn), (0x1e8c7, No), (0x1e8d0, Mn), (0x1e8d7, Cn), (0x1e900, Lu), (0x1e922, Ll),
  (0x1e944, Mn), (0x1e94b, Lm), (0x1e94c, Cn), (0x1e950, Nd), (0x1e95a, Cn), (0x1e95e, Po),
  (0x1e960, Cn), (0x1ec71, No), (0x1ecac, So), (0x1ecad, No), (0x1ecb0, Sc), (0x1ecb1, No),
  (0x1ecb5, Cn), (0x1ed01, No), (0x1ed2e, So), (0x1ed2f, No), (0x1ed3e, Cn), (0x1ee00, Lo),
  (0x1ee04, Cn), (0x1ee05, Lo), (0x1ee20, Cn), (0x1ee21, Lo), (0x1ee23, Cn), (0x1ee24, Lo),
  (0x1ee25, Cn), (0x1ee27, Lo), (0x1ee28, Cn), (0x1ee29, Lo), (0x1ee33, Cn), (0x1ee34, Lo),
  (0x1ee38, Cn), (0x1ee39, Lo), (0x1ee3a, Cn), (0x1ee3b, Lo), (0x1ee3c, Cn), (0x1ee42, Lo),
  (0x1ee43, Cn), (0x1ee47, Lo), (0x1ee48, Cn), (0x1ee49, Lo), (0x1ee4a, Cn), (0x1ee4b, Lo),
  (0x1ee4c, Cn), (0x1ee4d, Lo), (0x1ee50, Cn), (0x1ee51, Lo)]

private def categoryPage25 : List (Nat × Category) := [
  (0x1ee53, Cn), (0x1ee54, Lo), (0x1ee55, Cn), (0x1ee57, Lo), (0x1ee58, Cn), (0x1ee59, Lo),
  (0x1ee5a, Cn), (0x1ee5b, Lo), (0x1ee5c, Cn), (0x1ee5d, Lo), (0x1ee5e, Cn), (0x1ee5f, Lo),
  (0x1ee60, Cn), (0x1ee61, Lo), (0x1ee63, Cn), (0x1ee64, Lo), (0x1ee65, Cn), (0x1ee67, Lo),
  (0x1ee6b, Cn), (0x1ee6c, Lo), (0x1ee73, Cn), (0x1ee74, Lo), (0x1ee78, Cn), (0x1ee79, Lo),
  (0x1ee7d, Cn), (0x1ee7e, Lo), (0x1ee7f, Cn), (0x1ee80, Lo), (0x1ee8a, Cn), (0x1ee8b, Lo),
  (0x1ee9c, Cn), (0x1eea1, Lo), (0x1eea4, Cn), (0x1eea5, Lo), (0x1eeaa, Cn), (0x1eeab, Lo),
  (0x1eebc, Cn), (0x1eef0, Sm), (0x1eef2, Cn), (0x1f000, So), (0x1f02c, Cn), (0x1f030, So),
  (0x1f094, Cn), (0x1f0a0, So), (0x1f0af, Cn), (0x1f0b1, So), (0x1f0c0, Cn), (0x1f0c1, So),
  (0x1f0d0, Cn), (0x1f0d1, So), (0x1f0f6, Cn), (0x1f100, No), (0x1f10d, So), (0x1f1ae, Cn),
  (0x1f1e6, So), (0x1f203, Cn), (0x1f210, So), (0x1f23c, Cn), (0x1f240, So), (0x1f249, Cn),
  (0x1f250, So), (0x1f252, Cn), (0x1f260, So), (0x1f266, Cn), (0x1f300, So), (0x1f3fb, Sk),
  (0x1f400, So), (0x1f6d9, Cn), (0x1f6dc, So), (0x1f6ed, Cn), (0x1f6f0, So), (0x1f6fd, Cn),
  (0x1f700, So), (0x1f7da, Cn), (0x1f7e0, So), (0x1f7ec, Cn), (0x1f7f0, So), (0x1f7f1, Cn),
  (0x1f800, So), (0x1f80c, Cn), (0x1f810, So), (0x1f848, Cn), (0x1f850, So), (0x1f85a, Cn),
  (0x1f860, So), (0x1f888, Cn), (0x1f890, So), (0x1f8ae, Cn), (0x1f8b0, So), (0x1f8bc, Cn),
  (0x1f8c0, So), (0x1f8c2, Cn), (0x1f8d0, Sm), (0x1f8d9, Cn), (0x1f900, So), (0x1fa58, Cn),
  (0x1fa60, So), (0x1fa6e, Cn), (0x1fa70, So), (0x1fa7d, Cn), (0x1fa80, So), (0x1fa8b, Cn),
  (0x1fa8e, So), (0x1fac7, Cn), (0x1fac8, So), (0x1fac9, Cn), (0x1facd, So), (0x1fadd, Cn),
  (0x1fadf, So), (0x1faeb, Cn), (0x1faef, So), (0x1faf9, Cn), (0x1fb00, So), (0x1fb93, Cn),
  (0x1fb94, So), (0x1fbf0, Nd), (0x1fbfa, So), (0x1fbfb, Cn), (0x20000, Lo), (0x2a6e0, Cn),
  (0x2a700, Lo), (0x2b81e, Cn), (0x2b820, Lo), (0x2ceae, Cn), (0x2ceb0, Lo), (0x2ebe1, Cn),
  (0x2ebf0, Lo), (0x2ee5e, Cn), (0x2f800, Lo), (0x2fa1e, Cn), (0x30000, Lo), (0x3134b, Cn),
  (0x31350, Lo), (0x3347a, Cn), (0xe0001, Cf), (0xe0002, Cn), (0xe0020, Cf), (0xe0080, Cn),
  (0xe0100, Mn), (0xe01f0, Cn), (0xf0000, Co), (0xffffe, Cn), (0x100000, Co), (0x10fffe, Cn)]

/-- Where each general category begins, in increasing order, page by page. -/
def categoryPages : List (List (Nat × Category)) := [
  categoryPage0, categoryPage1, categoryPage2, categoryPage3, categoryPage4, categoryPage5,
  categoryPage6, categoryPage7, categoryPage8, categoryPage9, categoryPage10, categoryPage11,
  categoryPage12, categoryPage13, categoryPage14, categoryPage15, categoryPage16,
  categoryPage17, categoryPage18, categoryPage19, categoryPage20, categoryPage21,
  categoryPage22, categoryPage23, categoryPage24, categoryPage25]

end Gapfill.Unicode
