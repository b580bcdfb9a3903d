/-
Combining classes, which say where a mark is written.

Marks of different classes do not get in each other's way, so their order is not seen; those of one
class are written outward in their order.  Characters of class 0 begin anew.  The classes are those
of Unicode 17, the larger ones first.
-/
import FrontDoor.Text.CodePoint

namespace FrontDoor.Text

/-- Each class but 0 with the first and last code points of its runs. -/
def combiningClasses : List (Nat × List (Nat × Nat)) :=
  [
    (230, [(0x300, 0x314), (0x33d, 0x33f), (0x342, 0x342), (0x346, 0x346), (0x34a, 0x34c),
      (0x350, 0x352), (0x357, 0x357), (0x35b, 0x35b), (0x363, 0x36f), (0x483, 0x487),
      (0x592, 0x595), (0x597, 0x599), (0x59c, 0x5a1), (0x5a8, 0x5a9), (0x5ab, 0x5ac),
      (0x5af, 0x5af), (0x5c4, 0x5c4), (0x610, 0x617), (0x653, 0x654), (0x657, 0x65b),
      (0x65d, 0x65e), (0x6d6, 0x6dc), (0x6df, 0x6e2), (0x6e4, 0x6e4), (0x6e7, 0x6e8),
      (0x6eb, 0x6ec), (0x730, 0x730), (0x732, 0x733), (0x735, 0x736), (0x73a, 0x73a),
      (0x73d, 0x73d), (0x73f, 0x741), (0x743, 0x743), (0x745, 0x745), (0x747, 0x747),
      (0x749, 0x74a), (0x7eb, 0x7f1), (0x7f3, 0x7f3), (0x816, 0x819), (0x81b, 0x823),
      (0x825, 0x827), (0x829, 0x82d), (0x897, 0x898), (0x89c, 0x89f), (0x8ca, 0x8ce),
      (0x8d4, 0x8e1), (0x8e4, 0x8e5), (0x8e7, 0x8e8), (0x8ea, 0x8ec), (0x8f3, 0x8f5),
      (0x8f7, 0x8f8), (0x8fb, 0x8ff), (0x951, 0x951), (0x953, 0x954), (0x9fe, 0x9fe),
      (0xf82, 0xf83), (0xf86, 0xf87), (0x135d, 0x135f), (0x17dd, 0x17dd), (0x193a, 0x193a),
      (0x1a17, 0x1a17), (0x1a75, 0x1a7c), (0x1ab0, 0x1ab4), (0x1abb, 0x1abc), (0x1ac1, 0x1ac2),
      (0x1ac5, 0x1ac9), (0x1acb, 0x1adc), (0x1ae0, 0x1ae5), (0x1ae7, 0x1aea), (0x1b6b, 0x1b6b),
      (0x1b6d, 0x1b73), (0x1cd0, 0x1cd2), (0x1cda, 0x1cdb), (0x1ce0, 0x1ce0), (0x1cf4, 0x1cf4),
      (0x1cf8, 0x1cf9), (0x1dc0, 0x1dc1), (0x1dc3, 0x1dc9), (0x1dcb, 0x1dcc), (0x1dd1, 0x1df5),
      (0x1dfb, 0x1dfb), (0x1dfe, 0x1dfe), (0x20d0, 0x20d1), (0x20d4, 0x20d7), (0x20db, 0x20dc),
      (0x20e1, 0x20e1), (0x20e7, 0x20e7), (0x20e9, 0x20e9), (0x20f0, 0x20f0), (0x2cef, 0x2cf1),
      (0x2de0, 0x2dff), (0xa66f, 0xa66f), (0xa674, 0xa67d), (0xa69e, 0xa69f), (0xa6f0, 0xa6f1),
      (0xa8e0, 0xa8f1), (0xaab0, 0xaab0), (0xaab2, 0xaab3), (0xaab7, 0xaab8), (0xaabe, 0xaabf),
      (0xaac1, 0xaac1), (0xfe20, 0xfe26), (0xfe2e, 0xfe2f), (0x10376, 0x1037a), (0x10a0f, 0x10a0f),
      (0x10a38, 0x10a38), (0x10ae5, 0x10ae5), (0x10d24, 0x10d27), (0x10d69, 0x10d6d),
      (0x10eab, 0x10eac), (0x10f48, 0x10f4a), (0x10f4c, 0x10f4c), (0x10f82, 0x10f82),
      (0x10f84, 0x10f84), (0x11100, 0x11102), (0x11366, 0x1136c), (0x11370, 0x11374),
      (0x1145e, 0x1145e), (0x16b30, 0x16b36), (0x1d185, 0x1d189), (0x1d1aa, 0x1d1ad),
      (0x1d242, 0x1d244), (0x1e000, 0x1e006), (0x1e008, 0x1e018), (0x1e01b, 0x1e021),
      (0x1e023, 0x1e024), (0x1e026, 0x1e02a), (0x1e08f, 0x1e08f), (0x1e130, 0x1e136),
      (0x1e2ae, 0x1e2ae), (0x1e2ec, 0x1e2ef), (0x1e4ef, 0x1e4ef), (0x1e5ee, 0x1e5ee),
      (0x1e6e3, 0x1e6e3), (0x1e6e6, 0x1e6e6), (0x1e6ee, 0x1e6ef), (0x1e6f5, 0x1e6f5),
      (0x1e944, 0x1e949)]),
    (220, [(0x316, 0x319), (0x31c, 0x320), (0x323, 0x326), (0x329, 0x333), (0x339, 0x33c),
      (0x347, 0x349), (0x34d, 0x34e), (0x353, 0x356), (0x359, 0x35a), (0x591, 0x591),
      (0x596, 0x596), (0x59b, 0x59b), (0x5a2, 0x5a7), (0x5aa, 0x5aa), (0x5c5, 0x5c5),
      (0x655, 0x656), (0x65c, 0x65c), (0x65f, 0x65f), (0x6e3, 0x6e3), (0x6ea, 0x6ea),
      (0x6ed, 0x6ed), (0x731, 0x731), (0x734, 0x734), (0x737, 0x739), (0x73b, 0x73c),
      (0x73e, 0x73e), (0x742, 0x742), (0x744, 0x744), (0x746, 0x746), (0x748, 0x748),
      (0x7f2, 0x7f2), (0x7fd, 0x7fd), (0x859, 0x85b), (0x899, 0x89b), (0x8cf, 0x8d3),
      (0x8e3, 0x8e3), (0x8e6, 0x8e6), (0x8e9, 0x8e9), (0x8ed, 0x8ef), (0x8f6, 0x8f6),
      (0x8f9, 0x8fa), (0x952, 0x952), (0xf18, 0xf19), (0xf35, 0xf35), (0xf37, 0xf37),
      (0xfc6, 0xfc6), (0x108d, 0x108d), (0x193b, 0x193b), (0x1a18, 0x1a18), (0x1a7f, 0x1a7f),
      (0x1ab5, 0x1aba), (0x1abd, 0x1abd), (0x1abf, 0x1ac0), (0x1ac3, 0x1ac4), (0x1aca, 0x1aca),
      (0x1add, 0x1add), (0x1ae6, 0x1ae6), (0x1b6c, 0x1b6c), (0x1cd5, 0x1cd9), (0x1cdc, 0x1cdf),
      (0x1ced, 0x1ced), (0x1dc2, 0x1dc2), (0x1dca, 0x1dca), (0x1dcf, 0x1dcf), (0x1df9, 0x1df9),
      (0x1dfd, 0x1dfd), (0x1dff, 0x1dff), (0x20e8, 0x20e8), (0x20ec, 0x20ef), (0xa92b, 0xa92d),
      (0xaab4, 0xaab4), (0xfe27, 0xfe2d), (0x101fd, 0x101fd), (0x102e0, 0x102e0),
      (0x10a0d, 0x10a0d), (0x10a3a, 0x10a3a), (0x10ae6, 0x10ae6), (0x10efa, 0x10efb),
      (0x10efd, 0x10eff), (0x10f46, 0x10f47), (0x10f4b, 0x10f4b), (0x10f4d, 0x10f50),
      (0x10f83, 0x10f83), (0x10f85, 0x10f85), (0x1d17b, 0x1d182), (0x1d18a, 0x1d18b),
      (0x1e4ee, 0x1e4ee), (0x1e5ef, 0x1e5ef), (0x1e8d0, 0x1e8d6)]),
    (9, [(0x94d, 0x94d), (0x9cd, 0x9cd), (0xa4d, 0xa4d), (0xacd, 0xacd), (0xb4d, 0xb4d),
      (0xbcd, 0xbcd), (0xc4d, 0xc4d), (0xccd, 0xccd), (0xd3b, 0xd3c), (0xd4d, 0xd4d),
      (0xdca, 0xdca), (0xe3a, 0xe3a), (0xeba, 0xeba), (0xf84, 0xf84), (0x1039, 0x103a),
      (0x1714, 0x1715), (0x1734, 0x1734), (0x17d2, 0x17d2), (0x1a60, 0x1a60), (0x1b44, 0x1b44),
      (0x1baa, 0x1bab), (0x1bf2, 0x1bf3), (0x2d7f, 0x2d7f), (0xa806, 0xa806), (0xa82c, 0xa82c),
      (0xa8c4, 0xa8c4), (0xa953, 0xa953), (0xa9c0, 0xa9c0), (0xaaf6, 0xaaf6), (0xabed, 0xabed),
      (0x10a3f, 0x10a3f), (0x11046, 0x11046), (0x11070, 0x11070), (0x1107f, 0x1107f),
      (0x110b9, 0x110b9), (0x11133, 0x11134), (0x111c0, 0x111c0), (0x11235, 0x11235),
      (0x112ea, 0x112ea), (0x1134d, 0x1134d), (0x113ce, 0x113d0), (0x11442, 0x11442),
      (0x114c2, 0x114c2), (0x115bf, 0x115bf), (0x1163f, 0x1163f), (0x116b6, 0x116b6),
      (0x1172b, 0x1172b), (0x11839, 0x11839), (0x1193d, 0x1193e), (0x119e0, 0x119e0),
      (0x11a34, 0x11a34), (0x11a47, 0x11a47), (0x11a99, 0x11a99), (0x11c3f, 0x11c3f),
      (0x11d44, 0x11d45), (0x11d97, 0x11d97), (0x11f41, 0x11f42), (0x1612f, 0x1612f)]),
    (1, [(0x334, 0x338), (0x1cd4, 0x1cd4), (0x1ce2, 0x1ce8), (0x20d2, 0x20d3), (0x20d8, 0x20da),
      (0x20e5, 0x20e6), (0x20ea, 0x20eb), (0x10a39, 0x10a39), (0x16af0, 0x16af4),
      (0x1bc9e, 0x1bc9e), (0x1d167, 0x1d169)]),
    (7, [(0x93c, 0x93c), (0x9bc, 0x9bc), (0xa3c, 0xa3c), (0xabc, 0xabc), (0xb3c, 0xb3c),
      (0xc3c, 0xc3c), (0xcbc, 0xcbc), (0x1037, 0x1037), (0x1b34, 0x1b34), (0x1be6, 0x1be6),
      (0x1c37, 0x1c37), (0xa9b3, 0xa9b3), (0x110ba, 0x110ba), (0x11173, 0x11173),
      (0x111ca, 0x111ca), (0x11236, 0x11236), (0x112e9, 0x112e9), (0x1133b, 0x1133c),
      (0x11446, 0x11446), (0x114c3, 0x114c3), (0x115c0, 0x115c0), (0x116b7, 0x116b7),
      (0x1183a, 0x1183a), (0x11943, 0x11943), (0x11d42, 0x11d42), (0x1e94a, 0x1e94a)]),
    (216, [(0x31b, 0x31b), (0xf39, 0xf39), (0x1d165, 0x1d166), (0x1d16e, 0x1d172)]),
    (232, [(0x315, 0x315), (0x31a, 0x31a), (0x358, 0x358), (0x1df6, 0x1df6), (0x302c, 0x302c),
      (0x1e4ec, 0x1e4ed)]),
    (130, [(0xf72, 0xf72), (0xf7a, 0xf7d), (0xf80, 0xf80)]),
    (234, [(0x35d, 0x35e), (0x360, 0x361), (0x1aeb, 0x1aeb), (0x1dcd, 0x1dcd)]),
    (202, [(0x321, 0x322), (0x327, 0x328), (0x1dd0, 0x1dd0)]),
    (228, [(0x5ae, 0x5ae), (0x18a9, 0x18a9), (0x1df7, 0x1df8), (0x302b, 0x302b)]),
    (107, [(0xe48, 0xe4b)]),
    (122, [(0xec8, 0xecb)]),
    (222, [(0x59a, 0x59a), (0x5ad, 0x5ad), (0x1939, 0x1939), (0x302d, 0x302d)]),
    (233, [(0x35c, 0x35c), (0x35f, 0x35f), (0x362, 0x362), (0x1dfc, 0x1dfc)]),
    (6, [(0x16ff0, 0x16ff1)]),
    (8, [(0x3099, 0x309a)]),
    (18, [(0x5b8, 0x5b8), (0x5c7, 0x5c7)]),
    (19, [(0x5b9, 0x5ba)]),
    (27, [(0x64b, 0x64b), (0x8f0, 0x8f0)]),
    (28, [(0x64c, 0x64c), (0x8f1, 0x8f1)]),
    (29, [(0x64d, 0x64d), (0x8f2, 0x8f2)]),
    (30, [(0x618, 0x618), (0x64e, 0x64e)]),
    (31, [(0x619, 0x619), (0x64f, 0x64f)]),
    (32, [(0x61a, 0x61a), (0x650, 0x650)]),
    (103, [(0xe38, 0xe39)]),
    (118, [(0xeb8, 0xeb9)]),
    (218, [(0x1dfa, 0x1dfa), (0x302a, 0x302a)]),
    (224, [(0x302e, 0x302f)]),
    (10, [(0x5b0, 0x5b0)]),
    (11, [(0x5b1, 0x5b1)]),
    (12, [(0x5b2, 0x5b2)]),
    (13, [(0x5b3, 0x5b3)]),
    (14, [(0x5b4, 0x5b4)]),
    (15, [(0x5b5, 0x5b5)]),
    (16, [(0x5b6, 0x5b6)]),
    (17, [(0x5b7, 0x5b7)]),
    (20, [(0x5bb, 0x5bb)]),
    (21, [(0x5bc, 0x5bc)]),
    (22, [(0x5bd, 0x5bd)]),
    (23, [(0x5bf, 0x5bf)]),
    (24, [(0x5c1, 0x5c1)]),
    (25, [(0x5c2, 0x5c2)]),
    (26, [(0xfb1e, 0xfb1e)]),
    (33, [(0x651, 0x651)]),
    (34, [(0x652, 0x652)]),
    (35, [(0x670, 0x670)]),
    (36, [(0x711, 0x711)]),
    (84, [(0xc55, 0xc55)]),
    (91, [(0xc56, 0xc56)]),
    (129, [(0xf71, 0xf71)]),
    (132, [(0xf74, 0xf74)]),
    (214, [(0x1dce, 0x1dce)]),
    (226, [(0x1d16d, 0x1d16d)]),
    (240, [(0x345, 0x345)])]

/-- The class of a character. -/
def combiningClass (c : Char) : Nat :=
  if c.toNat < 0x300 then 0
  else ((combiningClasses.find? fun (_, runs) => inRanges c.toNat runs).map Prod.fst).getD 0

/-- The class of the marks that silence the vowel of a letter, so that it joins the next. -/
def viramaClass : Nat := 9

end FrontDoor.Text
