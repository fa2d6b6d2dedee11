-- The mapping of domain names: what becomes of each code point before a
-- domain is checked and written in ASCII. A code point is kept, dropped,
-- refused, or replaced by a text: letters by their lower case, compatibility
-- forms by their plain ones (full-width letters, circled digits, Roman
-- numerals, ligatures). The table gives this for runs of code points that
-- together cover every code point, in order.
namespace Typeahead.Domain

/-- What the mapping does with the code points of a run. -/
inductive Treatment where
  /-- Kept as they are. -/
  | valid
  /-- Dropped. -/
  | ignored
  /-- Refused: the domain is not valid. -/
  | disallowed
  /-- Replaced by the code point `shift` away; with `step` 2 only every
  other one from the start of the run, the others kept. -/
  | shift (shift : Int) (step : Nat)
  /-- Each replaced by the same text, given by its code points. -/
  | text (codes : List Nat)
  deriving Repr, DecidableEq

/-- A run of code points `lo ..= hi` and its treatment. -/
structure Run where
  lo : Nat
  hi : Nat
  treatment : Treatment
  deriving Repr, DecidableEq

/-- The runs from U+0000 to U+0E33. -/
def runsFrom0 : List Run := [
  ⟨0x0, 0x40, .valid⟩, ⟨0x41, 0x5A, .shift 32 1⟩, ⟨0x5B, 0x7F, .valid⟩,
  ⟨0x80, 0x9F, .disallowed⟩, ⟨0xA0, 0xA0, .shift (-128) 1⟩, ⟨0xA1, 0xA7, .valid⟩,
  ⟨0xA8, 0xA8, .text [0x20, 0x308]⟩, ⟨0xA9, 0xA9, .valid⟩, ⟨0xAA, 0xAA, .shift (-73) 1⟩,
  ⟨0xAB, 0xAC, .valid⟩, ⟨0xAD, 0xAD, .ignored⟩, ⟨0xAE, 0xAE, .valid⟩,
  ⟨0xAF, 0xAF, .text [0x20, 0x304]⟩, ⟨0xB0, 0xB1, .valid⟩, ⟨0xB2, 0xB3, .shift (-128) 1⟩,
  ⟨0xB4, 0xB4, .text [0x20, 0x301]⟩, ⟨0xB5, 0xB5, .shift 775 1⟩, ⟨0xB6, 0xB7, .valid⟩,
  ⟨0xB8, 0xB8, .text [0x20, 0x327]⟩, ⟨0xB9, 0xB9, .shift (-136) 1⟩,
  ⟨0xBA, 0xBA, .shift (-75) 1⟩, ⟨0xBB, 0xBB, .valid⟩,
  ⟨0xBC, 0xBC, .text [0x31, 0x2044, 0x34]⟩, ⟨0xBD, 0xBD, .text [0x31, 0x2044, 0x32]⟩,
  ⟨0xBE, 0xBE, .text [0x33, 0x2044, 0x34]⟩, ⟨0xBF, 0xBF, .valid⟩, ⟨0xC0, 0xD6, .shift 32 1⟩,
  ⟨0xD7, 0xD7, .valid⟩, ⟨0xD8, 0xDE, .shift 32 1⟩, ⟨0xDF, 0xFF, .valid⟩,
  ⟨0x100, 0x12E, .shift 1 2⟩, ⟨0x12F, 0x12F, .valid⟩, ⟨0x130, 0x130, .text [0x69, 0x307]⟩,
  ⟨0x131, 0x131, .valid⟩, ⟨0x132, 0x133, .text [0x69, 0x6A]⟩, ⟨0x134, 0x136, .shift 1 2⟩,
  ⟨0x137, 0x138, .valid⟩, ⟨0x139, 0x13D, .shift 1 2⟩, ⟨0x13E, 0x13E, .valid⟩,
  ⟨0x13F, 0x140, .text [0x6C, 0xB7]⟩, ⟨0x141, 0x147, .shift 1 2⟩, ⟨0x148, 0x148, .valid⟩,
  ⟨0x149, 0x149, .text [0x2BC, 0x6E]⟩, ⟨0x14A, 0x176, .shift 1 2⟩, ⟨0x177, 0x177, .valid⟩,
  ⟨0x178, 0x178, .shift (-121) 1⟩, ⟨0x179, 0x17D, .shift 1 2⟩, ⟨0x17E, 0x17E, .valid⟩,
  ⟨0x17F, 0x17F, .shift (-268) 1⟩, ⟨0x180, 0x180, .valid⟩, ⟨0x181, 0x181, .shift 210 1⟩,
  ⟨0x182, 0x184, .shift 1 2⟩, ⟨0x185, 0x185, .valid⟩, ⟨0x186, 0x186, .shift 206 1⟩,
  ⟨0x187, 0x187, .shift 1 1⟩, ⟨0x188, 0x188, .valid⟩, ⟨0x189, 0x18A, .shift 205 1⟩,
  ⟨0x18B, 0x18B, .shift 1 1⟩, ⟨0x18C, 0x18D, .valid⟩, ⟨0x18E, 0x18E, .shift 79 1⟩,
  ⟨0x18F, 0x18F, .shift 202 1⟩, ⟨0x190, 0x190, .shift 203 1⟩, ⟨0x191, 0x191, .shift 1 1⟩,
  ⟨0x192, 0x192, .valid⟩, ⟨0x193, 0x193, .shift 205 1⟩, ⟨0x194, 0x194, .shift 207 1⟩,
  ⟨0x195, 0x195, .valid⟩, ⟨0x196, 0x196, .shift 211 1⟩, ⟨0x197, 0x197, .shift 209 1⟩,
  ⟨0x198, 0x198, .shift 1 1⟩, ⟨0x199, 0x19B, .valid⟩, ⟨0x19C, 0x19C, .shift 211 1⟩,
  ⟨0x19D, 0x19D, .shift 213 1⟩, ⟨0x19E, 0x19E, .valid⟩, ⟨0x19F, 0x19F, .shift 214 1⟩,
  ⟨0x1A0, 0x1A4, .shift 1 2⟩, ⟨0x1A5, 0x1A5, .valid⟩, ⟨0x1A6, 0x1A6, .shift 218 1⟩,
  ⟨0x1A7, 0x1A7, .shift 1 1⟩, ⟨0x1A8, 0x1A8, .valid⟩, ⟨0x1A9, 0x1A9, .shift 218 1⟩,
  ⟨0x1AA, 0x1AB, .valid⟩, ⟨0x1AC, 0x1AC, .shift 1 1⟩, ⟨0x1AD, 0x1AD, .valid⟩,
  ⟨0x1AE, 0x1AE, .shift 218 1⟩, ⟨0x1AF, 0x1AF, .shift 1 1⟩, ⟨0x1B0, 0x1B0, .valid⟩,
  ⟨0x1B1, 0x1B2, .shift 217 1⟩, ⟨0x1B3, 0x1B5, .shift 1 2⟩, ⟨0x1B6, 0x1B6, .valid⟩,
  ⟨0x1B7, 0x1B7, .shift 219 1⟩, ⟨0x1B8, 0x1B8, .shift 1 1⟩, ⟨0x1B9, 0x1BB, .valid⟩,
  ⟨0x1BC, 0x1BC, .shift 1 1⟩, ⟨0x1BD, 0x1C3, .valid⟩, ⟨0x1C4, 0x1C6, .text [0x64, 0x17E]⟩,
  ⟨0x1C7, 0x1C9, .text [0x6C, 0x6A]⟩, ⟨0x1CA, 0x1CC, .text [0x6E, 0x6A]⟩,
  ⟨0x1CD, 0x1DB, .shift 1 2⟩, ⟨0x1DC, 0x1DD, .valid⟩, ⟨0x1DE, 0x1EE, .shift 1 2⟩,
  ⟨0x1EF, 0x1F0, .valid⟩, ⟨0x1F1, 0x1F3, .text [0x64, 0x7A]⟩, ⟨0x1F4, 0x1F4, .shift 1 1⟩,
  ⟨0x1F5, 0x1F5, .valid⟩, ⟨0x1F6, 0x1F6, .shift (-97) 1⟩, ⟨0x1F7, 0x1F7, .shift (-56) 1⟩,
  ⟨0x1F8, 0x21E, .shift 1 2⟩, ⟨0x21F, 0x21F, .valid⟩, ⟨0x220, 0x220, .shift (-130) 1⟩,
  ⟨0x221, 0x221, .valid⟩, ⟨0x222, 0x232, .shift 1 2⟩, ⟨0x233, 0x239, .valid⟩,
  ⟨0x23A, 0x23A, .shift 10795 1⟩, ⟨0x23B, 0x23B, .shift 1 1⟩, ⟨0x23C, 0x23C, .valid⟩,
  ⟨0x23D, 0x23D, .shift (-163) 1⟩, ⟨0x23E, 0x23E, .shift 10792 1⟩, ⟨0x23F, 0x240, .valid⟩,
  ⟨0x241, 0x241, .shift 1 1⟩, ⟨0x242, 0x242, .valid⟩, ⟨0x243, 0x243, .shift (-195) 1⟩,
  ⟨0x244, 0x244, .shift 69 1⟩, ⟨0x245, 0x245, .shift 71 1⟩, ⟨0x246, 0x24E, .shift 1 2⟩,
  ⟨0x24F, 0x2AF, .valid⟩, ⟨0x2B0, 0x2B0, .shift (-584) 1⟩, ⟨0x2B1, 0x2B1, .shift (-75) 1⟩,
  ⟨0x2B2, 0x2B2, .shift (-584) 1⟩, ⟨0x2B3, 0x2B3, .shift (-577) 1⟩,
  ⟨0x2B4, 0x2B4, .shift (-59) 1⟩, ⟨0x2B5, 0x2B5, .shift (-58) 1⟩,
  ⟨0x2B6, 0x2B6, .shift (-53) 1⟩, ⟨0x2B7, 0x2B7, .shift (-576) 1⟩,
  ⟨0x2B8, 0x2B8, .shift (-575) 1⟩, ⟨0x2B9, 0x2D7, .valid⟩,
  ⟨0x2D8, 0x2D8, .text [0x20, 0x306]⟩, ⟨0x2D9, 0x2D9, .text [0x20, 0x307]⟩,
  ⟨0x2DA, 0x2DA, .text [0x20, 0x30A]⟩, ⟨0x2DB, 0x2DB, .text [0x20, 0x328]⟩,
  ⟨0x2DC, 0x2DC, .text [0x20, 0x303]⟩, ⟨0x2DD, 0x2DD, .text [0x20, 0x30B]⟩,
  ⟨0x2DE, 0x2DF, .valid⟩, ⟨0x2E0, 0x2E0, .shift (-125) 1⟩, ⟨0x2E1, 0x2E1, .shift (-629) 1⟩,
  ⟨0x2E2, 0x2E2, .shift (-623) 1⟩, ⟨0x2E3, 0x2E3, .shift (-619) 1⟩,
  ⟨0x2E4, 0x2E4, .shift (-79) 1⟩, ⟨0x2E5, 0x33F, .valid⟩, ⟨0x340, 0x341, .shift (-64) 1⟩,
  ⟨0x342, 0x342, .valid⟩, ⟨0x343, 0x343, .shift (-48) 1⟩,
  ⟨0x344, 0x344, .text [0x308, 0x301]⟩, ⟨0x345, 0x345, .shift 116 1⟩,
  ⟨0x346, 0x34E, .valid⟩, ⟨0x34F, 0x34F, .ignored⟩, ⟨0x350, 0x36F, .valid⟩,
  ⟨0x370, 0x372, .shift 1 2⟩, ⟨0x373, 0x373, .valid⟩, ⟨0x374, 0x374, .shift (-187) 1⟩,
  ⟨0x375, 0x375, .valid⟩, ⟨0x376, 0x376, .shift 1 1⟩, ⟨0x377, 0x377, .valid⟩,
  ⟨0x378, 0x379, .disallowed⟩, ⟨0x37A, 0x37A, .text [0x20, 0x3B9]⟩, ⟨0x37B, 0x37D, .valid⟩,
  ⟨0x37E, 0x37E, .shift (-835) 1⟩, ⟨0x37F, 0x37F, .shift 116 1⟩,
  ⟨0x380, 0x383, .disallowed⟩, ⟨0x384, 0x384, .text [0x20, 0x301]⟩,
  ⟨0x385, 0x385, .text [0x20, 0x308, 0x301]⟩, ⟨0x386, 0x386, .shift 38 1⟩,
  ⟨0x387, 0x387, .shift (-720) 1⟩, ⟨0x388, 0x38A, .shift 37 1⟩, ⟨0x38B, 0x38B, .disallowed⟩,
  ⟨0x38C, 0x38C, .shift 64 1⟩, ⟨0x38D, 0x38D, .disallowed⟩, ⟨0x38E, 0x38F, .shift 63 1⟩,
  ⟨0x390, 0x390, .valid⟩, ⟨0x391, 0x3A1, .shift 32 1⟩, ⟨0x3A2, 0x3A2, .disallowed⟩,
  ⟨0x3A3, 0x3AB, .shift 32 1⟩, ⟨0x3AC, 0x3CE, .valid⟩, ⟨0x3CF, 0x3CF, .shift 8 1⟩,
  ⟨0x3D0, 0x3D0, .shift (-30) 1⟩, ⟨0x3D1, 0x3D1, .shift (-25) 1⟩,
  ⟨0x3D2, 0x3D2, .shift (-13) 1⟩, ⟨0x3D3, 0x3D3, .shift (-6) 1⟩,
  ⟨0x3D4, 0x3D4, .shift (-9) 1⟩, ⟨0x3D5, 0x3D5, .shift (-15) 1⟩,
  ⟨0x3D6, 0x3D6, .shift (-22) 1⟩, ⟨0x3D7, 0x3D7, .valid⟩, ⟨0x3D8, 0x3EE, .shift 1 2⟩,
  ⟨0x3EF, 0x3EF, .valid⟩, ⟨0x3F0, 0x3F0, .shift (-54) 1⟩, ⟨0x3F1, 0x3F1, .shift (-48) 1⟩,
  ⟨0x3F2, 0x3F2, .shift (-47) 1⟩, ⟨0x3F3, 0x3F3, .valid⟩, ⟨0x3F4, 0x3F4, .shift (-60) 1⟩,
  ⟨0x3F5, 0x3F5, .shift (-64) 1⟩, ⟨0x3F6, 0x3F6, .valid⟩, ⟨0x3F7, 0x3F7, .shift 1 1⟩,
  ⟨0x3F8, 0x3F8, .valid⟩, ⟨0x3F9, 0x3F9, .shift (-54) 1⟩, ⟨0x3FA, 0x3FA, .shift 1 1⟩,
  ⟨0x3FB, 0x3FC, .valid⟩, ⟨0x3FD, 0x3FF, .shift (-130) 1⟩, ⟨0x400, 0x40F, .shift 80 1⟩,
  ⟨0x410, 0x42F, .shift 32 1⟩, ⟨0x430, 0x45F, .valid⟩, ⟨0x460, 0x480, .shift 1 2⟩,
  ⟨0x481, 0x489, .valid⟩, ⟨0x48A, 0x4BE, .shift 1 2⟩, ⟨0x4BF, 0x4BF, .valid⟩,
  ⟨0x4C0, 0x4C0, .shift 15 1⟩, ⟨0x4C1, 0x4CD, .shift 1 2⟩, ⟨0x4CE, 0x4CF, .valid⟩,
  ⟨0x4D0, 0x52E, .shift 1 2⟩, ⟨0x52F, 0x52F, .valid⟩, ⟨0x530, 0x530, .disallowed⟩,
  ⟨0x531, 0x556, .shift 48 1⟩, ⟨0x557, 0x558, .disallowed⟩, ⟨0x559, 0x586, .valid⟩,
  ⟨0x587, 0x587, .text [0x565, 0x582]⟩, ⟨0x588, 0x58A, .valid⟩, ⟨0x58B, 0x58C, .disallowed⟩,
  ⟨0x58D, 0x58F, .valid⟩, ⟨0x590, 0x590, .disallowed⟩, ⟨0x591, 0x5C7, .valid⟩,
  ⟨0x5C8, 0x5CF, .disallowed⟩, ⟨0x5D0, 0x5EA, .valid⟩, ⟨0x5EB, 0x5EE, .disallowed⟩,
  ⟨0x5EF, 0x5F4, .valid⟩, ⟨0x5F5, 0x605, .disallowed⟩, ⟨0x606, 0x61B, .valid⟩,
  ⟨0x61C, 0x61C, .disallowed⟩, ⟨0x61D, 0x674, .valid⟩, ⟨0x675, 0x675, .text [0x627, 0x674]⟩,
  ⟨0x676, 0x676, .text [0x648, 0x674]⟩, ⟨0x677, 0x677, .text [0x6C7, 0x674]⟩,
  ⟨0x678, 0x678, .text [0x64A, 0x674]⟩, ⟨0x679, 0x6DC, .valid⟩, ⟨0x6DD, 0x6DD, .disallowed⟩,
  ⟨0x6DE, 0x70D, .valid⟩, ⟨0x70E, 0x70F, .disallowed⟩, ⟨0x710, 0x74A, .valid⟩,
  ⟨0x74B, 0x74C, .disallowed⟩, ⟨0x74D, 0x7B1, .valid⟩, ⟨0x7B2, 0x7BF, .disallowed⟩,
  ⟨0x7C0, 0x7FA, .valid⟩, ⟨0x7FB, 0x7FC, .disallowed⟩, ⟨0x7FD, 0x82D, .valid⟩,
  ⟨0x82E, 0x82F, .disallowed⟩, ⟨0x830, 0x83E, .valid⟩, ⟨0x83F, 0x83F, .disallowed⟩,
  ⟨0x840, 0x85B, .valid⟩, ⟨0x85C, 0x85D, .disallowed⟩, ⟨0x85E, 0x85E, .valid⟩,
  ⟨0x85F, 0x85F, .disallowed⟩, ⟨0x860, 0x86A, .valid⟩, ⟨0x86B, 0x86F, .disallowed⟩,
  ⟨0x870, 0x88F, .valid⟩, ⟨0x890, 0x896, .disallowed⟩, ⟨0x897, 0x8E1, .valid⟩,
  ⟨0x8E2, 0x8E2, .disallowed⟩, ⟨0x8E3, 0x957, .valid⟩, ⟨0x958, 0x958, .text [0x915, 0x93C]⟩,
  ⟨0x959, 0x959, .text [0x916, 0x93C]⟩, ⟨0x95A, 0x95A, .text [0x917, 0x93C]⟩,
  ⟨0x95B, 0x95B, .text [0x91C, 0x93C]⟩, ⟨0x95C, 0x95C, .text [0x921, 0x93C]⟩,
  ⟨0x95D, 0x95D, .text [0x922, 0x93C]⟩, ⟨0x95E, 0x95E, .text [0x92B, 0x93C]⟩,
  ⟨0x95F, 0x95F, .text [0x92F, 0x93C]⟩, ⟨0x960, 0x983, .valid⟩, ⟨0x984, 0x984, .disallowed⟩,
  ⟨0x985, 0x98C, .valid⟩, ⟨0x98D, 0x98E, .disallowed⟩, ⟨0x98F, 0x990, .valid⟩,
  ⟨0x991, 0x992, .disallowed⟩, ⟨0x993, 0x9A8, .valid⟩, ⟨0x9A9, 0x9A9, .disallowed⟩,
  ⟨0x9AA, 0x9B0, .valid⟩, ⟨0x9B1, 0x9B1, .disallowed⟩, ⟨0x9B2, 0x9B2, .valid⟩,
  ⟨0x9B3, 0x9B5, .disallowed⟩, ⟨0x9B6, 0x9B9, .valid⟩, ⟨0x9BA, 0x9BB, .disallowed⟩,
  ⟨0x9BC, 0x9C4, .valid⟩, ⟨0x9C5, 0x9C6, .disallowed⟩, ⟨0x9C7, 0x9C8, .valid⟩,
  ⟨0x9C9, 0x9CA, .disallowed⟩, ⟨0x9CB, 0x9CE, .valid⟩, ⟨0x9CF, 0x9D6, .disallowed⟩,
  ⟨0x9D7, 0x9D7, .valid⟩, ⟨0x9D8, 0x9DB, .disallowed⟩, ⟨0x9DC, 0x9DC, .text [0x9A1, 0x9BC]⟩,
  ⟨0x9DD, 0x9DD, .text [0x9A2, 0x9BC]⟩, ⟨0x9DE, 0x9DE, .disallowed⟩,
  ⟨0x9DF, 0x9DF, .text [0x9AF, 0x9BC]⟩, ⟨0x9E0, 0x9E3, .valid⟩, ⟨0x9E4, 0x9E5, .disallowed⟩,
  ⟨0x9E6, 0x9FE, .valid⟩, ⟨0x9FF, 0xA00, .disallowed⟩, ⟨0xA01, 0xA03, .valid⟩,
  ⟨0xA04, 0xA04, .disallowed⟩, ⟨0xA05, 0xA0A, .valid⟩, ⟨0xA0B, 0xA0E, .disallowed⟩,
  ⟨0xA0F, 0xA10, .valid⟩, ⟨0xA11, 0xA12, .disallowed⟩, ⟨0xA13, 0xA28, .valid⟩,
  ⟨0xA29, 0xA29, .disallowed⟩, ⟨0xA2A, 0xA30, .valid⟩, ⟨0xA31, 0xA31, .disallowed⟩,
  ⟨0xA32, 0xA32, .valid⟩, ⟨0xA33, 0xA33, .text [0xA32, 0xA3C]⟩, ⟨0xA34, 0xA34, .disallowed⟩,
  ⟨0xA35, 0xA35, .valid⟩, ⟨0xA36, 0xA36, .text [0xA38, 0xA3C]⟩, ⟨0xA37, 0xA37, .disallowed⟩,
  ⟨0xA38, 0xA39, .valid⟩, ⟨0xA3A, 0xA3B, .disallowed⟩, ⟨0xA3C, 0xA3C, .valid⟩,
  ⟨0xA3D, 0xA3D, .disallowed⟩, ⟨0xA3E, 0xA42, .valid⟩, ⟨0xA43, 0xA46, .disallowed⟩,
  ⟨0xA47, 0xA48, .valid⟩, ⟨0xA49, 0xA4A, .disallowed⟩, ⟨0xA4B, 0xA4D, .valid⟩,
  ⟨0xA4E, 0xA50, .disallowed⟩, ⟨0xA51, 0xA51, .valid⟩, ⟨0xA52, 0xA58, .disallowed⟩,
  ⟨0xA59, 0xA59, .text [0xA16, 0xA3C]⟩, ⟨0xA5A, 0xA5A, .text [0xA17, 0xA3C]⟩,
  ⟨0xA5B, 0xA5B, .text [0xA1C, 0xA3C]⟩, ⟨0xA5C, 0xA5C, .valid⟩, ⟨0xA5D, 0xA5D, .disallowed⟩,
  ⟨0xA5E, 0xA5E, .text [0xA2B, 0xA3C]⟩, ⟨0xA5F, 0xA65, .disallowed⟩, ⟨0xA66, 0xA76, .valid⟩,
  ⟨0xA77, 0xA80, .disallowed⟩, ⟨0xA81, 0xA83, .valid⟩, ⟨0xA84, 0xA84, .disallowed⟩,
  ⟨0xA85, 0xA8D, .valid⟩, ⟨0xA8E, 0xA8E, .disallowed⟩, ⟨0xA8F, 0xA91, .valid⟩,
  ⟨0xA92, 0xA92, .disallowed⟩, ⟨0xA93, 0xAA8, .valid⟩, ⟨0xAA9, 0xAA9, .disallowed⟩,
  ⟨0xAAA, 0xAB0, .valid⟩, ⟨0xAB1, 0xAB1, .disallowed⟩, ⟨0xAB2, 0xAB3, .valid⟩,
  ⟨0xAB4, 0xAB4, .disallowed⟩, ⟨0xAB5, 0xAB9, .valid⟩, ⟨0xABA, 0xABB, .disallowed⟩,
  ⟨0xABC, 0xAC5, .valid⟩, ⟨0xAC6, 0xAC6, .disallowed⟩, ⟨0xAC7, 0xAC9, .valid⟩,
  ⟨0xACA, 0xACA, .disallowed⟩, ⟨0xACB, 0xACD, .valid⟩, ⟨0xACE, 0xACF, .disallowed⟩,
  ⟨0xAD0, 0xAD0, .valid⟩, ⟨0xAD1, 0xADF, .disallowed⟩, ⟨0xAE0, 0xAE3, .valid⟩,
  ⟨0xAE4, 0xAE5, .disallowed⟩, ⟨0xAE6, 0xAF1, .valid⟩, ⟨0xAF2, 0xAF8, .disallowed⟩,
  ⟨0xAF9, 0xAFF, .valid⟩, ⟨0xB00, 0xB00, .disallowed⟩, ⟨0xB01, 0xB03, .valid⟩,
  ⟨0xB04, 0xB04, .disallowed⟩, ⟨0xB05, 0xB0C, .valid⟩, ⟨0xB0D, 0xB0E, .disallowed⟩,
  ⟨0xB0F, 0xB10, .valid⟩, ⟨0xB11, 0xB12, .disallowed⟩, ⟨0xB13, 0xB28, .valid⟩,
  ⟨0xB29, 0xB29, .disallowed⟩, ⟨0xB2A, 0xB30, .valid⟩, ⟨0xB31, 0xB31, .disallowed⟩,
  ⟨0xB32, 0xB33, .valid⟩, ⟨0xB34, 0xB34, .disallowed⟩, ⟨0xB35, 0xB39, .valid⟩,
  ⟨0xB3A, 0xB3B, .disallowed⟩, ⟨0xB3C, 0xB44, .valid⟩, ⟨0xB45, 0xB46, .disallowed⟩,
  ⟨0xB47, 0xB48, .valid⟩, ⟨0xB49, 0xB4A, .disallowed⟩, ⟨0xB4B, 0xB4D, .valid⟩,
  ⟨0xB4E, 0xB54, .disallowed⟩, ⟨0xB55, 0xB57, .valid⟩, ⟨0xB58, 0xB5B, .disallowed⟩,
  ⟨0xB5C, 0xB5C, .text [0xB21, 0xB3C]⟩, ⟨0xB5D, 0xB5D, .text [0xB22, 0xB3C]⟩,
  ⟨0xB5E, 0xB5E, .disallowed⟩, ⟨0xB5F, 0xB63, .valid⟩, ⟨0xB64, 0xB65, .disallowed⟩,
  ⟨0xB66, 0xB77, .valid⟩, ⟨0xB78, 0xB81, .disallowed⟩, ⟨0xB82, 0xB83, .valid⟩,
  ⟨0xB84, 0xB84, .disallowed⟩, ⟨0xB85, 0xB8A, .valid⟩, ⟨0xB8B, 0xB8D, .disallowed⟩,
  ⟨0xB8E, 0xB90, .valid⟩, ⟨0xB91, 0xB91, .disallowed⟩, ⟨0xB92, 0xB95, .valid⟩,
  ⟨0xB96, 0xB98, .disallowed⟩, ⟨0xB99, 0xB9A, .valid⟩, ⟨0xB9B, 0xB9B, .disallowed⟩,
  ⟨0xB9C, 0xB9C, .valid⟩, ⟨0xB9D, 0xB9D, .disallowed⟩, ⟨0xB9E, 0xB9F, .valid⟩,
  ⟨0xBA0, 0xBA2, .disallowed⟩, ⟨0xBA3, 0xBA4, .valid⟩, ⟨0xBA5, 0xBA7, .disallowed⟩,
  ⟨0xBA8, 0xBAA, .valid⟩, ⟨0xBAB, 0xBAD, .disallowed⟩, ⟨0xBAE, 0xBB9, .valid⟩,
  ⟨0xBBA, 0xBBD, .disallowed⟩, ⟨0xBBE, 0xBC2, .valid⟩, ⟨0xBC3, 0xBC5, .disallowed⟩,
  ⟨0xBC6, 0xBC8, .valid⟩, ⟨0xBC9, 0xBC9, .disallowed⟩, ⟨0xBCA, 0xBCD, .valid⟩,
  ⟨0xBCE, 0xBCF, .disallowed⟩, ⟨0xBD0, 0xBD0, .valid⟩, ⟨0xBD1, 0xBD6, .disallowed⟩,
  ⟨0xBD7, 0xBD7, .valid⟩, ⟨0xBD8, 0xBE5, .disallowed⟩, ⟨0xBE6, 0xBFA, .valid⟩,
  ⟨0xBFB, 0xBFF, .disallowed⟩, ⟨0xC00, 0xC0C, .valid⟩, ⟨0xC0D, 0xC0D, .disallowed⟩,
  ⟨0xC0E, 0xC10, .valid⟩, ⟨0xC11, 0xC11, .disallowed⟩, ⟨0xC12, 0xC28, .valid⟩,
  ⟨0xC29, 0xC29, .disallowed⟩, ⟨0xC2A, 0xC39, .valid⟩, ⟨0xC3A, 0xC3B, .disallowed⟩,
  ⟨0xC3C, 0xC44, .valid⟩, ⟨0xC45, 0xC45, .disallowed⟩, ⟨0xC46, 0xC48, .valid⟩,
  ⟨0xC49, 0xC49, .disallowed⟩, ⟨0xC4A, 0xC4D, .valid⟩, ⟨0xC4E, 0xC54, .disallowed⟩,
  ⟨0xC55, 0xC56, .valid⟩, ⟨0xC57, 0xC57, .disallowed⟩, ⟨0xC58, 0xC5A, .valid⟩,
  ⟨0xC5B, 0xC5B, .disallowed⟩, ⟨0xC5C, 0xC5D, .valid⟩, ⟨0xC5E, 0xC5F, .disallowed⟩,
  ⟨0xC60, 0xC63, .valid⟩, ⟨0xC64, 0xC65, .disallowed⟩, ⟨0xC66, 0xC6F, .valid⟩,
  ⟨0xC70, 0xC76, .disallowed⟩, ⟨0xC77, 0xC8C, .valid⟩, ⟨0xC8D, 0xC8D, .disallowed⟩,
  ⟨0xC8E, 0xC90, .valid⟩, ⟨0xC91, 0xC91, .disallowed⟩, ⟨0xC92, 0xCA8, .valid⟩,
  ⟨0xCA9, 0xCA9, .disallowed⟩, ⟨0xCAA, 0xCB3, .valid⟩, ⟨0xCB4, 0xCB4, .disallowed⟩,
  ⟨0xCB5, 0xCB9, .valid⟩, ⟨0xCBA, 0xCBB, .disallowed⟩, ⟨0xCBC, 0xCC4, .valid⟩,
  ⟨0xCC5, 0xCC5, .disallowed⟩, ⟨0xCC6, 0xCC8, .valid⟩, ⟨0xCC9, 0xCC9, .disallowed⟩,
  ⟨0xCCA, 0xCCD, .valid⟩, ⟨0xCCE, 0xCD4, .disallowed⟩, ⟨0xCD5, 0xCD6, .valid⟩,
  ⟨0xCD7, 0xCDB, .disallowed⟩, ⟨0xCDC, 0xCDE, .valid⟩, ⟨0xCDF, 0xCDF, .disallowed⟩,
  ⟨0xCE0, 0xCE3, .valid⟩, ⟨0xCE4, 0xCE5, .disallowed⟩, ⟨0xCE6, 0xCEF, .valid⟩,
  ⟨0xCF0, 0xCF0, .disallowed⟩, ⟨0xCF1, 0xCF3, .valid⟩, ⟨0xCF4, 0xCFF, .disallowed⟩,
  ⟨0xD00, 0xD0C, .valid⟩, ⟨0xD0D, 0xD0D, .disallowed⟩, ⟨0xD0E, 0xD10, .valid⟩,
  ⟨0xD11, 0xD11, .disallowed⟩, ⟨0xD12, 0xD44, .valid⟩, ⟨0xD45, 0xD45, .disallowed⟩,
  ⟨0xD46, 0xD48, .valid⟩, ⟨0xD49, 0xD49, .disallowed⟩, ⟨0xD4A, 0xD4F, .valid⟩,
  ⟨0xD50, 0xD53, .disallowed⟩, ⟨0xD54, 0xD63, .valid⟩, ⟨0xD64, 0xD65, .disallowed⟩,
  ⟨0xD66, 0xD7F, .valid⟩, ⟨0xD80, 0xD80, .disallowed⟩, ⟨0xD81, 0xD83, .valid⟩,
  ⟨0xD84, 0xD84, .disallowed⟩, ⟨0xD85, 0xD96, .valid⟩, ⟨0xD97, 0xD99, .disallowed⟩,
  ⟨0xD9A, 0xDB1, .valid⟩, ⟨0xDB2, 0xDB2, .disallowed⟩, ⟨0xDB3, 0xDBB, .valid⟩,
  ⟨0xDBC, 0xDBC, .disallowed⟩, ⟨0xDBD, 0xDBD, .valid⟩, ⟨0xDBE, 0xDBF, .disallowed⟩,
  ⟨0xDC0, 0xDC6, .valid⟩, ⟨0xDC7, 0xDC9, .disallowed⟩, ⟨0xDCA, 0xDCA, .valid⟩,
  ⟨0xDCB, 0xDCE, .disallowed⟩, ⟨0xDCF, 0xDD4, .valid⟩, ⟨0xDD5, 0xDD5, .disallowed⟩,
  ⟨0xDD6, 0xDD6, .valid⟩, ⟨0xDD7, 0xDD7, .disallowed⟩, ⟨0xDD8, 0xDDF, .valid⟩,
  ⟨0xDE0, 0xDE5, .disallowed⟩, ⟨0xDE6, 0xDEF, .valid⟩, ⟨0xDF0, 0xDF1, .disallowed⟩,
  ⟨0xDF2, 0xDF4, .valid⟩, ⟨0xDF5, 0xE00, .disallowed⟩, ⟨0xE01, 0xE32, .valid⟩,
  ⟨0xE33, 0xE33, .text [0xE4D, 0xE32]⟩]

/-- The runs from U+0E34 to U+209C. -/
def runsFromE34 : List Run := [
  ⟨0xE34, 0xE3A, .valid⟩, ⟨0xE3B, 0xE3E, .disallowed⟩, ⟨0xE3F, 0xE5B, .valid⟩,
  ⟨0xE5C, 0xE80, .disallowed⟩, ⟨0xE81, 0xE82, .valid⟩, ⟨0xE83, 0xE83, .disallowed⟩,
  ⟨0xE84, 0xE84, .valid⟩, ⟨0xE85, 0xE85, .disallowed⟩, ⟨0xE86, 0xE8A, .valid⟩,
  ⟨0xE8B, 0xE8B, .disallowed⟩, ⟨0xE8C, 0xEA3, .valid⟩, ⟨0xEA4, 0xEA4, .disallowed⟩,
  ⟨0xEA5, 0xEA5, .valid⟩, ⟨0xEA6, 0xEA6, .disallowed⟩, ⟨0xEA7, 0xEB2, .valid⟩,
  ⟨0xEB3, 0xEB3, .text [0xECD, 0xEB2]⟩, ⟨0xEB4, 0xEBD, .valid⟩, ⟨0xEBE, 0xEBF, .disallowed⟩,
  ⟨0xEC0, 0xEC4, .valid⟩, ⟨0xEC5, 0xEC5, .disallowed⟩, ⟨0xEC6, 0xEC6, .valid⟩,
  ⟨0xEC7, 0xEC7, .disallowed⟩, ⟨0xEC8, 0xECE, .valid⟩, ⟨0xECF, 0xECF, .disallowed⟩,
  ⟨0xED0, 0xED9, .valid⟩, ⟨0xEDA, 0xEDB, .disallowed⟩, ⟨0xEDC, 0xEDC, .text [0xEAB, 0xE99]⟩,
  ⟨0xEDD, 0xEDD, .text [0xEAB, 0xEA1]⟩, ⟨0xEDE, 0xEDF, .valid⟩, ⟨0xEE0, 0xEFF, .disallowed⟩,
  ⟨0xF00, 0xF0B, .valid⟩, ⟨0xF0C, 0xF0C, .shift (-1) 1⟩, ⟨0xF0D, 0xF42, .valid⟩,
  ⟨0xF43, 0xF43, .text [0xF42, 0xFB7]⟩, ⟨0xF44, 0xF47, .valid⟩, ⟨0xF48, 0xF48, .disallowed⟩,
  ⟨0xF49, 0xF4C, .valid⟩, ⟨0xF4D, 0xF4D, .text [0xF4C, 0xFB7]⟩, ⟨0xF4E, 0xF51, .valid⟩,
  ⟨0xF52, 0xF52, .text [0xF51, 0xFB7]⟩, ⟨0xF53, 0xF56, .valid⟩,
  ⟨0xF57, 0xF57, .text [0xF56, 0xFB7]⟩, ⟨0xF58, 0xF5B, .valid⟩,
  ⟨0xF5C, 0xF5C, .text [0xF5B, 0xFB7]⟩, ⟨0xF5D, 0xF68, .valid⟩,
  ⟨0xF69, 0xF69, .text [0xF40, 0xFB5]⟩, ⟨0xF6A, 0xF6C, .valid⟩, ⟨0xF6D, 0xF70, .disallowed⟩,
  ⟨0xF71, 0xF72, .valid⟩, ⟨0xF73, 0xF73, .text [0xF71, 0xF72]⟩, ⟨0xF74, 0xF74, .valid⟩,
  ⟨0xF75, 0xF75, .text [0xF71, 0xF74]⟩, ⟨0xF76, 0xF76, .text [0xFB2, 0xF80]⟩,
  ⟨0xF77, 0xF77, .text [0xFB2, 0xF71, 0xF80]⟩, ⟨0xF78, 0xF78, .text [0xFB3, 0xF80]⟩,
  ⟨0xF79, 0xF79, .text [0xFB3, 0xF71, 0xF80]⟩, ⟨0xF7A, 0xF80, .valid⟩,
  ⟨0xF81, 0xF81, .text [0xF71, 0xF80]⟩, ⟨0xF82, 0xF92, .valid⟩,
  ⟨0xF93, 0xF93, .text [0xF92, 0xFB7]⟩, ⟨0xF94, 0xF97, .valid⟩, ⟨0xF98, 0xF98, .disallowed⟩,
  ⟨0xF99, 0xF9C, .valid⟩, ⟨0xF9D, 0xF9D, .text [0xF9C, 0xFB7]⟩, ⟨0xF9E, 0xFA1, .valid⟩,
  ⟨0xFA2, 0xFA2, .text [0xFA1, 0xFB7]⟩, ⟨0xFA3, 0xFA6, .valid⟩,
  ⟨0xFA7, 0xFA7, .text [0xFA6, 0xFB7]⟩, ⟨0xFA8, 0xFAB, .valid⟩,
  ⟨0xFAC, 0xFAC, .text [0xFAB, 0xFB7]⟩, ⟨0xFAD, 0xFB8, .valid⟩,
  ⟨0xFB9, 0xFB9, .text [0xF90, 0xFB5]⟩, ⟨0xFBA, 0xFBC, .valid⟩, ⟨0xFBD, 0xFBD, .disallowed⟩,
  ⟨0xFBE, 0xFCC, .valid⟩, ⟨0xFCD, 0xFCD, .disallowed⟩, ⟨0xFCE, 0xFDA, .valid⟩,
  ⟨0xFDB, 0xFFF, .disallowed⟩, ⟨0x1000, 0x109F, .valid⟩, ⟨0x10A0, 0x10C5, .shift 7264 1⟩,
  ⟨0x10C6, 0x10C6, .disallowed⟩, ⟨0x10C7, 0x10C7, .shift 7264 1⟩,
  ⟨0x10C8, 0x10CC, .disallowed⟩, ⟨0x10CD, 0x10CD, .shift 7264 1⟩,
  ⟨0x10CE, 0x10CF, .disallowed⟩, ⟨0x10D0, 0x10FB, .valid⟩, ⟨0x10FC, 0x10FC, .shift (-32) 1⟩,
  ⟨0x10FD, 0x115E, .valid⟩, ⟨0x115F, 0x1160, .ignored⟩, ⟨0x1161, 0x1248, .valid⟩,
  ⟨0x1249, 0x1249, .disallowed⟩, ⟨0x124A, 0x124D, .valid⟩, ⟨0x124E, 0x124F, .disallowed⟩,
  ⟨0x1250, 0x1256, .valid⟩, ⟨0x1257, 0x1257, .disallowed⟩, ⟨0x1258, 0x1258, .valid⟩,
  ⟨0x1259, 0x1259, .disallowed⟩, ⟨0x125A, 0x125D, .valid⟩, ⟨0x125E, 0x125F, .disallowed⟩,
  ⟨0x1260, 0x1288, .valid⟩, ⟨0x1289, 0x1289, .disallowed⟩, ⟨0x128A, 0x128D, .valid⟩,
  ⟨0x128E, 0x128F, .disallowed⟩, ⟨0x1290, 0x12B0, .valid⟩, ⟨0x12B1, 0x12B1, .disallowed⟩,
  ⟨0x12B2, 0x12B5, .valid⟩, ⟨0x12B6, 0x12B7, .disallowed⟩, ⟨0x12B8, 0x12BE, .valid⟩,
  ⟨0x12BF, 0x12BF, .disallowed⟩, ⟨0x12C0, 0x12C0, .valid⟩, ⟨0x12C1, 0x12C1, .disallowed⟩,
  ⟨0x12C2, 0x12C5, .valid⟩, ⟨0x12C6, 0x12C7, .disallowed⟩, ⟨0x12C8, 0x12D6, .valid⟩,
  ⟨0x12D7, 0x12D7, .disallowed⟩, ⟨0x12D8, 0x1310, .valid⟩, ⟨0x1311, 0x1311, .disallowed⟩,
  ⟨0x1312, 0x1315, .valid⟩, ⟨0x1316, 0x1317, .disallowed⟩, ⟨0x1318, 0x135A, .valid⟩,
  ⟨0x135B, 0x135C, .disallowed⟩, ⟨0x135D, 0x137C, .valid⟩, ⟨0x137D, 0x137F, .disallowed⟩,
  ⟨0x1380, 0x1399, .valid⟩, ⟨0x139A, 0x139F, .disallowed⟩, ⟨0x13A0, 0x13F5, .valid⟩,
  ⟨0x13F6, 0x13F7, .disallowed⟩, ⟨0x13F8, 0x13FD, .shift (-8) 1⟩,
  ⟨0x13FE, 0x13FF, .disallowed⟩, ⟨0x1400, 0x167F, .valid⟩, ⟨0x1680, 0x1680, .disallowed⟩,
  ⟨0x1681, 0x169C, .valid⟩, ⟨0x169D, 0x169F, .disallowed⟩, ⟨0x16A0, 0x16F8, .valid⟩,
  ⟨0x16F9, 0x16FF, .disallowed⟩, ⟨0x1700, 0x1715, .valid⟩, ⟨0x1716, 0x171E, .disallowed⟩,
  ⟨0x171F, 0x1736, .valid⟩, ⟨0x1737, 0x173F, .disallowed⟩, ⟨0x1740, 0x1753, .valid⟩,
  ⟨0x1754, 0x175F, .disallowed⟩, ⟨0x1760, 0x176C, .valid⟩, ⟨0x176D, 0x176D, .disallowed⟩,
  ⟨0x176E, 0x1770, .valid⟩, ⟨0x1771, 0x1771, .disallowed⟩, ⟨0x1772, 0x1773, .valid⟩,
  ⟨0x1774, 0x177F, .disallowed⟩, ⟨0x1780, 0x17B3, .valid⟩, ⟨0x17B4, 0x17B5, .ignored⟩,
  ⟨0x17B6, 0x17DD, .valid⟩, ⟨0x17DE, 0x17DF, .disallowed⟩, ⟨0x17E0, 0x17E9, .valid⟩,
  ⟨0x17EA, 0x17EF, .disallowed⟩, ⟨0x17F0, 0x17F9, .valid⟩, ⟨0x17FA, 0x17FF, .disallowed⟩,
  ⟨0x1800, 0x180A, .valid⟩, ⟨0x180B, 0x180F, .ignored⟩, ⟨0x1810, 0x1819, .valid⟩,
  ⟨0x181A, 0x181F, .disallowed⟩, ⟨0x1820, 0x1878, .valid⟩, ⟨0x1879, 0x187F, .disallowed⟩,
  ⟨0x1880, 0x18AA, .valid⟩, ⟨0x18AB, 0x18AF, .disallowed⟩, ⟨0x18B0, 0x18F5, .valid⟩,
  ⟨0x18F6, 0x18FF, .disallowed⟩, ⟨0x1900, 0x191E, .valid⟩, ⟨0x191F, 0x191F, .disallowed⟩,
  ⟨0x1920, 0x192B, .valid⟩, ⟨0x192C, 0x192F, .disallowed⟩, ⟨0x1930, 0x193B, .valid⟩,
  ⟨0x193C, 0x193F, .disallowed⟩, ⟨0x1940, 0x1940, .valid⟩, ⟨0x1941, 0x1943, .disallowed⟩,
  ⟨0x1944, 0x196D, .valid⟩, ⟨0x196E, 0x196F, .disallowed⟩, ⟨0x1970, 0x1974, .valid⟩,
  ⟨0x1975, 0x197F, .disallowed⟩, ⟨0x1980, 0x19AB, .valid⟩, ⟨0x19AC, 0x19AF, .disallowed⟩,
  ⟨0x19B0, 0x19C9, .valid⟩, ⟨0x19CA, 0x19CF, .disallowed⟩, ⟨0x19D0, 0x19DA, .valid⟩,
  ⟨0x19DB, 0x19DD, .disallowed⟩, ⟨0x19DE, 0x1A1B, .valid⟩, ⟨0x1A1C, 0x1A1D, .disallowed⟩,
  ⟨0x1A1E, 0x1A5E, .valid⟩, ⟨0x1A5F, 0x1A5F, .disallowed⟩, ⟨0x1A60, 0x1A7C, .valid⟩,
  ⟨0x1A7D, 0x1A7E, .disallowed⟩, ⟨0x1A7F, 0x1A89, .valid⟩, ⟨0x1A8A, 0x1A8F, .disallowed⟩,
  ⟨0x1A90, 0x1A99, .valid⟩, ⟨0x1A9A, 0x1A9F, .disallowed⟩, ⟨0x1AA0, 0x1AAD, .valid⟩,
  ⟨0x1AAE, 0x1AAF, .disallowed⟩, ⟨0x1AB0, 0x1ADD, .valid⟩, ⟨0x1ADE, 0x1ADF, .disallowed⟩,
  ⟨0x1AE0, 0x1AEB, .valid⟩, ⟨0x1AEC, 0x1AFF, .disallowed⟩, ⟨0x1B00, 0x1B4C, .valid⟩,
  ⟨0x1B4D, 0x1B4D, .disallowed⟩, ⟨0x1B4E, 0x1BF3, .valid⟩, ⟨0x1BF4, 0x1BFB, .disallowed⟩,
  ⟨0x1BFC, 0x1C37, .valid⟩, ⟨0x1C38, 0x1C3A, .disallowed⟩, ⟨0x1C3B, 0x1C49, .valid⟩,
  ⟨0x1C4A, 0x1C4C, .disallowed⟩, ⟨0x1C4D, 0x1C7F, .valid⟩,
  ⟨0x1C80, 0x1C80, .shift (-6222) 1⟩, ⟨0x1C81, 0x1C81, .shift (-6221) 1⟩,
  ⟨0x1C82, 0x1C82, .shift (-6212) 1⟩, ⟨0x1C83, 0x1C83, .shift (-6210) 1⟩,
  ⟨0x1C84, 0x1C85, .text [0x442]⟩, ⟨0x1C86, 0x1C86, .shift (-6204) 1⟩,
  ⟨0x1C87, 0x1C87, .shift (-6180) 1⟩, ⟨0x1C88, 0x1C88, .shift 35267 1⟩,
  ⟨0x1C89, 0x1C89, .shift 1 1⟩, ⟨0x1C8A, 0x1C8A, .valid⟩, ⟨0x1C8B, 0x1C8F, .disallowed⟩,
  ⟨0x1C90, 0x1CBA, .shift (-3008) 1⟩, ⟨0x1CBB, 0x1CBC, .disallowed⟩,
  ⟨0x1CBD, 0x1CBF, .shift (-3008) 1⟩, ⟨0x1CC0, 0x1CC7, .valid⟩,
  ⟨0x1CC8, 0x1CCF, .disallowed⟩, ⟨0x1CD0, 0x1CFA, .valid⟩, ⟨0x1CFB, 0x1CFF, .disallowed⟩,
  ⟨0x1D00, 0x1D2B, .valid⟩, ⟨0x1D2C, 0x1D2C, .shift (-7371) 1⟩,
  ⟨0x1D2D, 0x1D2D, .shift (-7239) 1⟩, ⟨0x1D2E, 0x1D30, .shift (-7372) 2⟩,
  ⟨0x1D31, 0x1D31, .shift (-7372) 1⟩, ⟨0x1D32, 0x1D32, .shift (-6997) 1⟩,
  ⟨0x1D33, 0x1D3A, .shift (-7372) 1⟩, ⟨0x1D3B, 0x1D3B, .valid⟩,
  ⟨0x1D3C, 0x1D3C, .shift (-7373) 1⟩, ⟨0x1D3D, 0x1D3D, .shift (-6938) 1⟩,
  ⟨0x1D3E, 0x1D3E, .shift (-7374) 1⟩, ⟨0x1D3F, 0x1D3F, .shift (-7373) 1⟩,
  ⟨0x1D40, 0x1D41, .shift (-7372) 1⟩, ⟨0x1D42, 0x1D42, .shift (-7371) 1⟩,
  ⟨0x1D43, 0x1D43, .shift (-7394) 1⟩, ⟨0x1D44, 0x1D45, .shift (-6900) 1⟩,
  ⟨0x1D46, 0x1D46, .shift (-68) 1⟩, ⟨0x1D47, 0x1D47, .shift (-7397) 1⟩,
  ⟨0x1D48, 0x1D49, .shift (-7396) 1⟩, ⟨0x1D4A, 0x1D4A, .shift (-6897) 1⟩,
  ⟨0x1D4B, 0x1D4C, .shift (-6896) 1⟩, ⟨0x1D4D, 0x1D4D, .shift (-7398) 1⟩,
  ⟨0x1D4E, 0x1D4E, .valid⟩, ⟨0x1D4F, 0x1D4F, .shift (-7396) 1⟩,
  ⟨0x1D50, 0x1D50, .shift (-7395) 1⟩, ⟨0x1D51, 0x1D51, .shift (-7174) 1⟩,
  ⟨0x1D52, 0x1D52, .shift (-7395) 1⟩, ⟨0x1D53, 0x1D53, .shift (-6911) 1⟩,
  ⟨0x1D54, 0x1D55, .shift (-62) 1⟩, ⟨0x1D56, 0x1D56, .shift (-7398) 1⟩,
  ⟨0x1D57, 0x1D58, .shift (-7395) 1⟩, ⟨0x1D59, 0x1D59, .shift (-60) 1⟩,
  ⟨0x1D5A, 0x1D5A, .shift (-6891) 1⟩, ⟨0x1D5B, 0x1D5B, .shift (-7397) 1⟩,
  ⟨0x1D5C, 0x1D5C, .shift (-55) 1⟩, ⟨0x1D5D, 0x1D5F, .shift (-6571) 1⟩,
  ⟨0x1D60, 0x1D61, .shift (-6554) 1⟩, ⟨0x1D62, 0x1D62, .shift (-7417) 1⟩,
  ⟨0x1D63, 0x1D63, .shift (-7409) 1⟩, ⟨0x1D64, 0x1D65, .shift (-7407) 1⟩,
  ⟨0x1D66, 0x1D67, .shift (-6580) 1⟩, ⟨0x1D68, 0x1D68, .shift (-6567) 1⟩,
  ⟨0x1D69, 0x1D6A, .shift (-6563) 1⟩, ⟨0x1D6B, 0x1D77, .valid⟩,
  ⟨0x1D78, 0x1D78, .shift (-6459) 1⟩, ⟨0x1D79, 0x1D9A, .valid⟩,
  ⟨0x1D9B, 0x1D9B, .shift (-6985) 1⟩, ⟨0x1D9C, 0x1D9C, .shift (-7481) 1⟩,
  ⟨0x1D9D, 0x1D9D, .shift (-6984) 1⟩, ⟨0x1D9E, 0x1D9E, .shift (-7342) 1⟩,
  ⟨0x1D9F, 0x1D9F, .shift (-6979) 1⟩, ⟨0x1DA0, 0x1DA0, .shift (-7482) 1⟩,
  ⟨0x1DA1, 0x1DA1, .shift (-6978) 1⟩, ⟨0x1DA2, 0x1DA2, .shift (-6977) 1⟩,
  ⟨0x1DA3, 0x1DA3, .shift (-6974) 1⟩, ⟨0x1DA4, 0x1DA6, .shift (-6972) 1⟩,
  ⟨0x1DA7, 0x1DA7, .shift (-44) 1⟩, ⟨0x1DA8, 0x1DA8, .shift (-6923) 1⟩,
  ⟨0x1DA9, 0x1DA9, .shift (-6972) 1⟩, ⟨0x1DAA, 0x1DAA, .shift (-37) 1⟩,
  ⟨0x1DAB, 0x1DAB, .shift (-6924) 1⟩, ⟨0x1DAC, 0x1DAC, .shift (-6971) 1⟩,
  ⟨0x1DAD, 0x1DAD, .shift (-6973) 1⟩, ⟨0x1DAE, 0x1DB1, .shift (-6972) 1⟩,
  ⟨0x1DB2, 0x1DB2, .shift (-6970) 1⟩, ⟨0x1DB3, 0x1DB4, .shift (-6961) 1⟩,
  ⟨0x1DB5, 0x1DB5, .shift (-7178) 1⟩, ⟨0x1DB6, 0x1DB7, .shift (-6957) 1⟩,
  ⟨0x1DB8, 0x1DB8, .shift (-156) 1⟩, ⟨0x1DB9, 0x1DBA, .shift (-6958) 1⟩,
  ⟨0x1DBB, 0x1DBB, .shift (-7489) 1⟩, ⟨0x1DBC, 0x1DBE, .shift (-6956) 1⟩,
  ⟨0x1DBF, 0x1DBF, .shift (-6663) 1⟩, ⟨0x1DC0, 0x1DFF, .valid⟩,
  ⟨0x1E00, 0x1E94, .shift 1 2⟩, ⟨0x1E95, 0x1E99, .valid⟩,
  ⟨0x1E9A, 0x1E9A, .text [0x61, 0x2BE]⟩, ⟨0x1E9B, 0x1E9B, .shift (-58) 1⟩,
  ⟨0x1E9C, 0x1E9D, .valid⟩, ⟨0x1E9E, 0x1E9E, .shift (-7615) 1⟩, ⟨0x1E9F, 0x1E9F, .valid⟩,
  ⟨0x1EA0, 0x1EFE, .shift 1 2⟩, ⟨0x1EFF, 0x1F07, .valid⟩, ⟨0x1F08, 0x1F0F, .shift (-8) 1⟩,
  ⟨0x1F10, 0x1F15, .valid⟩, ⟨0x1F16, 0x1F17, .disallowed⟩, ⟨0x1F18, 0x1F1D, .shift (-8) 1⟩,
  ⟨0x1F1E, 0x1F1F, .disallowed⟩, ⟨0x1F20, 0x1F27, .valid⟩, ⟨0x1F28, 0x1F2F, .shift (-8) 1⟩,
  ⟨0x1F30, 0x1F37, .valid⟩, ⟨0x1F38, 0x1F3F, .shift (-8) 1⟩, ⟨0x1F40, 0x1F45, .valid⟩,
  ⟨0x1F46, 0x1F47, .disallowed⟩, ⟨0x1F48, 0x1F4D, .shift (-8) 1⟩,
  ⟨0x1F4E, 0x1F4F, .disallowed⟩, ⟨0x1F50, 0x1F57, .valid⟩, ⟨0x1F58, 0x1F58, .disallowed⟩,
  ⟨0x1F59, 0x1F59, .shift (-8) 1⟩, ⟨0x1F5A, 0x1F5A, .disallowed⟩,
  ⟨0x1F5B, 0x1F5B, .shift (-8) 1⟩, ⟨0x1F5C, 0x1F5C, .disallowed⟩,
  ⟨0x1F5D, 0x1F5D, .shift (-8) 1⟩, ⟨0x1F5E, 0x1F5E, .disallowed⟩,
  ⟨0x1F5F, 0x1F5F, .shift (-8) 1⟩, ⟨0x1F60, 0x1F67, .valid⟩,
  ⟨0x1F68, 0x1F6F, .shift (-8) 1⟩, ⟨0x1F70, 0x1F70, .valid⟩,
  ⟨0x1F71, 0x1F71, .shift (-7109) 1⟩, ⟨0x1F72, 0x1F72, .valid⟩,
  ⟨0x1F73, 0x1F73, .shift (-7110) 1⟩, ⟨0x1F74, 0x1F74, .valid⟩,
  ⟨0x1F75, 0x1F75, .shift (-7111) 1⟩, ⟨0x1F76, 0x1F76, .valid⟩,
  ⟨0x1F77, 0x1F77, .shift (-7112) 1⟩, ⟨0x1F78, 0x1F78, .valid⟩,
  ⟨0x1F79, 0x1F79, .shift (-7085) 1⟩, ⟨0x1F7A, 0x1F7A, .valid⟩,
  ⟨0x1F7B, 0x1F7B, .shift (-7086) 1⟩, ⟨0x1F7C, 0x1F7C, .valid⟩,
  ⟨0x1F7D, 0x1F7D, .shift (-7087) 1⟩, ⟨0x1F7E, 0x1F7F, .disallowed⟩,
  ⟨0x1F80, 0x1F80, .text [0x1F00, 0x3B9]⟩, ⟨0x1F81, 0x1F81, .text [0x1F01, 0x3B9]⟩,
  ⟨0x1F82, 0x1F82, .text [0x1F02, 0x3B9]⟩, ⟨0x1F83, 0x1F83, .text [0x1F03, 0x3B9]⟩,
  ⟨0x1F84, 0x1F84, .text [0x1F04, 0x3B9]⟩, ⟨0x1F85, 0x1F85, .text [0x1F05, 0x3B9]⟩,
  ⟨0x1F86, 0x1F86, .text [0x1F06, 0x3B9]⟩, ⟨0x1F87, 0x1F87, .text [0x1F07, 0x3B9]⟩,
  ⟨0x1F88, 0x1F88, .text [0x1F00, 0x3B9]⟩, ⟨0x1F89, 0x1F89, .text [0x1F01, 0x3B9]⟩,
  ⟨0x1F8A, 0x1F8A, .text [0x1F02, 0x3B9]⟩, ⟨0x1F8B, 0x1F8B, .text [0x1F03, 0x3B9]⟩,
  ⟨0x1F8C, 0x1F8C, .text [0x1F04, 0x3B9]⟩, ⟨0x1F8D, 0x1F8D, .text [0x1F05, 0x3B9]⟩,
  ⟨0x1F8E, 0x1F8E, .text [0x1F06, 0x3B9]⟩, ⟨0x1F8F, 0x1F8F, .text [0x1F07, 0x3B9]⟩,
  ⟨0x1F90, 0x1F90, .text [0x1F20, 0x3B9]⟩, ⟨0x1F91, 0x1F91, .text [0x1F21, 0x3B9]⟩,
  ⟨0x1F92, 0x1F92, .text [0x1F22, 0x3B9]⟩, ⟨0x1F93, 0x1F93, .text [0x1F23, 0x3B9]⟩,
  ⟨0x1F94, 0x1F94, .text [0x1F24, 0x3B9]⟩, ⟨0x1F95, 0x1F95, .text [0x1F25, 0x3B9]⟩,
  ⟨0x1F96, 0x1F96, .text [0x1F26, 0x3B9]⟩, ⟨0x1F97, 0x1F97, .text [0x1F27, 0x3B9]⟩,
  ⟨0x1F98, 0x1F98, .text [0x1F20, 0x3B9]⟩, ⟨0x1F99, 0x1F99, .text [0x1F21, 0x3B9]⟩,
  ⟨0x1F9A, 0x1F9A, .text [0x1F22, 0x3B9]⟩, ⟨0x1F9B, 0x1F9B, .text [0x1F23, 0x3B9]⟩,
  ⟨0x1F9C, 0x1F9C, .text [0x1F24, 0x3B9]⟩, ⟨0x1F9D, 0x1F9D, .text [0x1F25, 0x3B9]⟩,
  ⟨0x1F9E, 0x1F9E, .text [0x1F26, 0x3B9]⟩, ⟨0x1F9F, 0x1F9F, .text [0x1F27, 0x3B9]⟩,
  ⟨0x1FA0, 0x1FA0, .text [0x1F60, 0x3B9]⟩, ⟨0x1FA1, 0x1FA1, .text [0x1F61, 0x3B9]⟩,
  ⟨0x1FA2, 0x1FA2, .text [0x1F62, 0x3B9]⟩, ⟨0x1FA3, 0x1FA3, .text [0x1F63, 0x3B9]⟩,
  ⟨0x1FA4, 0x1FA4, .text [0x1F64, 0x3B9]⟩, ⟨0x1FA5, 0x1FA5, .text [0x1F65, 0x3B9]⟩,
  ⟨0x1FA6, 0x1FA6, .text [0x1F66, 0x3B9]⟩, ⟨0x1FA7, 0x1FA7, .text [0x1F67, 0x3B9]⟩,
  ⟨0x1FA8, 0x1FA8, .text [0x1F60, 0x3B9]⟩, ⟨0x1FA9, 0x1FA9, .text [0x1F61, 0x3B9]⟩,
  ⟨0x1FAA, 0x1FAA, .text [0x1F62, 0x3B9]⟩, ⟨0x1FAB, 0x1FAB, .text [0x1F63, 0x3B9]⟩,
  ⟨0x1FAC, 0x1FAC, .text [0x1F64, 0x3B9]⟩, ⟨0x1FAD, 0x1FAD, .text [0x1F65, 0x3B9]⟩,
  ⟨0x1FAE, 0x1FAE, .text [0x1F66, 0x3B9]⟩, ⟨0x1FAF, 0x1FAF, .text [0x1F67, 0x3B9]⟩,
  ⟨0x1FB0, 0x1FB1, .valid⟩, ⟨0x1FB2, 0x1FB2, .text [0x1F70, 0x3B9]⟩,
  ⟨0x1FB3, 0x1FB3, .text [0x3B1, 0x3B9]⟩, ⟨0x1FB4, 0x1FB4, .text [0x3AC, 0x3B9]⟩,
  ⟨0x1FB5, 0x1FB5, .disallowed⟩, ⟨0x1FB6, 0x1FB6, .valid⟩,
  ⟨0x1FB7, 0x1FB7, .text [0x1FB6, 0x3B9]⟩, ⟨0x1FB8, 0x1FB9, .shift (-8) 1⟩,
  ⟨0x1FBA, 0x1FBA, .shift (-74) 1⟩, ⟨0x1FBB, 0x1FBB, .shift (-7183) 1⟩,
  ⟨0x1FBC, 0x1FBC, .text [0x3B1, 0x3B9]⟩, ⟨0x1FBD, 0x1FBD, .text [0x20, 0x313]⟩,
  ⟨0x1FBE, 0x1FBE, .shift (-7173) 1⟩, ⟨0x1FBF, 0x1FBF, .text [0x20, 0x313]⟩,
  ⟨0x1FC0, 0x1FC0, .text [0x20, 0x342]⟩, ⟨0x1FC1, 0x1FC1, .text [0x20, 0x308, 0x342]⟩,
  ⟨0x1FC2, 0x1FC2, .text [0x1F74, 0x3B9]⟩, ⟨0x1FC3, 0x1FC3, .text [0x3B7, 0x3B9]⟩,
  ⟨0x1FC4, 0x1FC4, .text [0x3AE, 0x3B9]⟩, ⟨0x1FC5, 0x1FC5, .disallowed⟩,
  ⟨0x1FC6, 0x1FC6, .valid⟩, ⟨0x1FC7, 0x1FC7, .text [0x1FC6, 0x3B9]⟩,
  ⟨0x1FC8, 0x1FC8, .shift (-86) 1⟩, ⟨0x1FC9, 0x1FC9, .shift (-7196) 1⟩,
  ⟨0x1FCA, 0x1FCA, .shift (-86) 1⟩, ⟨0x1FCB, 0x1FCB, .shift (-7197) 1⟩,
  ⟨0x1FCC, 0x1FCC, .text [0x3B7, 0x3B9]⟩, ⟨0x1FCD, 0x1FCD, .text [0x20, 0x313, 0x300]⟩,
  ⟨0x1FCE, 0x1FCE, .text [0x20, 0x313, 0x301]⟩,
  ⟨0x1FCF, 0x1FCF, .text [0x20, 0x313, 0x342]⟩, ⟨0x1FD0, 0x1FD2, .valid⟩,
  ⟨0x1FD3, 0x1FD3, .shift (-7235) 1⟩, ⟨0x1FD4, 0x1FD5, .disallowed⟩,
  ⟨0x1FD6, 0x1FD7, .valid⟩, ⟨0x1FD8, 0x1FD9, .shift (-8) 1⟩,
  ⟨0x1FDA, 0x1FDA, .shift (-100) 1⟩, ⟨0x1FDB, 0x1FDB, .shift (-7212) 1⟩,
  ⟨0x1FDC, 0x1FDC, .disallowed⟩, ⟨0x1FDD, 0x1FDD, .text [0x20, 0x314, 0x300]⟩,
  ⟨0x1FDE, 0x1FDE, .text [0x20, 0x314, 0x301]⟩,
  ⟨0x1FDF, 0x1FDF, .text [0x20, 0x314, 0x342]⟩, ⟨0x1FE0, 0x1FE2, .valid⟩,
  ⟨0x1FE3, 0x1FE3, .shift (-7219) 1⟩, ⟨0x1FE4, 0x1FE7, .valid⟩,
  ⟨0x1FE8, 0x1FE9, .shift (-8) 1⟩, ⟨0x1FEA, 0x1FEA, .shift (-112) 1⟩,
  ⟨0x1FEB, 0x1FEB, .shift (-7198) 1⟩, ⟨0x1FEC, 0x1FEC, .shift (-7) 1⟩,
  ⟨0x1FED, 0x1FED, .text [0x20, 0x308, 0x300]⟩,
  ⟨0x1FEE, 0x1FEE, .text [0x20, 0x308, 0x301]⟩, ⟨0x1FEF, 0x1FEF, .shift (-8079) 1⟩,
  ⟨0x1FF0, 0x1FF1, .disallowed⟩, ⟨0x1FF2, 0x1FF2, .text [0x1F7C, 0x3B9]⟩,
  ⟨0x1FF3, 0x1FF3, .text [0x3C9, 0x3B9]⟩, ⟨0x1FF4, 0x1FF4, .text [0x3CE, 0x3B9]⟩,
  ⟨0x1FF5, 0x1FF5, .disallowed⟩, ⟨0x1FF6, 0x1FF6, .valid⟩,
  ⟨0x1FF7, 0x1FF7, .text [0x1FF6, 0x3B9]⟩, ⟨0x1FF8, 0x1FF8, .shift (-128) 1⟩,
  ⟨0x1FF9, 0x1FF9, .shift (-7213) 1⟩, ⟨0x1FFA, 0x1FFA, .shift (-126) 1⟩,
  ⟨0x1FFB, 0x1FFB, .shift (-7213) 1⟩, ⟨0x1FFC, 0x1FFC, .text [0x3C9, 0x3B9]⟩,
  ⟨0x1FFD, 0x1FFD, .text [0x20, 0x301]⟩, ⟨0x1FFE, 0x1FFE, .text [0x20, 0x314]⟩,
  ⟨0x1FFF, 0x1FFF, .disallowed⟩, ⟨0x2000, 0x200A, .text [0x20]⟩, ⟨0x200B, 0x200B, .ignored⟩,
  ⟨0x200C, 0x200D, .valid⟩, ⟨0x200E, 0x200F, .disallowed⟩, ⟨0x2010, 0x2010, .valid⟩,
  ⟨0x2011, 0x2011, .shift (-1) 1⟩, ⟨0x2012, 0x2016, .valid⟩,
  ⟨0x2017, 0x2017, .text [0x20, 0x333]⟩, ⟨0x2018, 0x2023, .valid⟩,
  ⟨0x2024, 0x2026, .disallowed⟩, ⟨0x2027, 0x2027, .valid⟩, ⟨0x2028, 0x202E, .disallowed⟩,
  ⟨0x202F, 0x202F, .shift (-8207) 1⟩, ⟨0x2030, 0x2032, .valid⟩,
  ⟨0x2033, 0x2033, .text [0x2032, 0x2032]⟩,
  ⟨0x2034, 0x2034, .text [0x2032, 0x2032, 0x2032]⟩, ⟨0x2035, 0x2035, .valid⟩,
  ⟨0x2036, 0x2036, .text [0x2035, 0x2035]⟩,
  ⟨0x2037, 0x2037, .text [0x2035, 0x2035, 0x2035]⟩, ⟨0x2038, 0x203B, .valid⟩,
  ⟨0x203C, 0x203C, .text [0x21, 0x21]⟩, ⟨0x203D, 0x203D, .valid⟩,
  ⟨0x203E, 0x203E, .text [0x20, 0x305]⟩, ⟨0x203F, 0x2046, .valid⟩,
  ⟨0x2047, 0x2047, .text [0x3F, 0x3F]⟩, ⟨0x2048, 0x2048, .text [0x3F, 0x21]⟩,
  ⟨0x2049, 0x2049, .text [0x21, 0x3F]⟩, ⟨0x204A, 0x2056, .valid⟩,
  ⟨0x2057, 0x2057, .text [0x2032, 0x2032, 0x2032, 0x2032]⟩, ⟨0x2058, 0x205E, .valid⟩,
  ⟨0x205F, 0x205F, .shift (-8255) 1⟩, ⟨0x2060, 0x2064, .ignored⟩,
  ⟨0x2065, 0x2069, .disallowed⟩, ⟨0x206A, 0x206F, .ignored⟩,
  ⟨0x2070, 0x2070, .shift (-8256) 1⟩, ⟨0x2071, 0x2071, .shift (-8200) 1⟩,
  ⟨0x2072, 0x2073, .disallowed⟩, ⟨0x2074, 0x2079, .shift (-8256) 1⟩,
  ⟨0x207A, 0x207A, .shift (-8271) 1⟩, ⟨0x207B, 0x207B, .shift 407 1⟩,
  ⟨0x207C, 0x207C, .shift (-8255) 1⟩, ⟨0x207D, 0x207E, .shift (-8277) 1⟩,
  ⟨0x207F, 0x207F, .shift (-8209) 1⟩, ⟨0x2080, 0x2089, .shift (-8272) 1⟩,
  ⟨0x208A, 0x208A, .shift (-8287) 1⟩, ⟨0x208B, 0x208B, .shift 391 1⟩,
  ⟨0x208C, 0x208C, .shift (-8271) 1⟩, ⟨0x208D, 0x208E, .shift (-8293) 1⟩,
  ⟨0x208F, 0x208F, .disallowed⟩, ⟨0x2090, 0x2090, .shift (-8239) 1⟩,
  ⟨0x2091, 0x2091, .shift (-8236) 1⟩, ⟨0x2092, 0x2092, .shift (-8227) 1⟩,
  ⟨0x2093, 0x2093, .shift (-8219) 1⟩, ⟨0x2094, 0x2094, .shift (-7739) 1⟩,
  ⟨0x2095, 0x2095, .shift (-8237) 1⟩, ⟨0x2096, 0x2099, .shift (-8235) 1⟩,
  ⟨0x209A, 0x209A, .shift (-8234) 1⟩, ⟨0x209B, 0x209C, .shift (-8232) 1⟩]

/-- The runs from U+209D to U+316C. -/
def runsFrom209D : List Run := [
  ⟨0x209D, 0x209F, .disallowed⟩, ⟨0x20A0, 0x20A7, .valid⟩,
  ⟨0x20A8, 0x20A8, .text [0x72, 0x73]⟩, ⟨0x20A9, 0x20C1, .valid⟩,
  ⟨0x20C2, 0x20CF, .disallowed⟩, ⟨0x20D0, 0x20F0, .valid⟩, ⟨0x20F1, 0x20FF, .disallowed⟩,
  ⟨0x2100, 0x2100, .text [0x61, 0x2F, 0x63]⟩, ⟨0x2101, 0x2101, .text [0x61, 0x2F, 0x73]⟩,
  ⟨0x2102, 0x2102, .shift (-8351) 1⟩, ⟨0x2103, 0x2103, .text [0xB0, 0x63]⟩,
  ⟨0x2104, 0x2104, .valid⟩, ⟨0x2105, 0x2105, .text [0x63, 0x2F, 0x6F]⟩,
  ⟨0x2106, 0x2106, .text [0x63, 0x2F, 0x75]⟩, ⟨0x2107, 0x2107, .shift (-7852) 1⟩,
  ⟨0x2108, 0x2108, .valid⟩, ⟨0x2109, 0x2109, .text [0xB0, 0x66]⟩,
  ⟨0x210A, 0x210A, .shift (-8355) 1⟩, ⟨0x210B, 0x210E, .text [0x68]⟩,
  ⟨0x210F, 0x210F, .shift (-8168) 1⟩, ⟨0x2110, 0x2111, .text [0x69]⟩,
  ⟨0x2112, 0x2113, .text [0x6C]⟩, ⟨0x2114, 0x2114, .valid⟩,
  ⟨0x2115, 0x2115, .shift (-8359) 1⟩, ⟨0x2116, 0x2116, .text [0x6E, 0x6F]⟩,
  ⟨0x2117, 0x2118, .valid⟩, ⟨0x2119, 0x211A, .shift (-8361) 1⟩,
  ⟨0x211B, 0x211D, .text [0x72]⟩, ⟨0x211E, 0x211F, .valid⟩,
  ⟨0x2120, 0x2120, .text [0x73, 0x6D]⟩, ⟨0x2121, 0x2121, .text [0x74, 0x65, 0x6C]⟩,
  ⟨0x2122, 0x2122, .text [0x74, 0x6D]⟩, ⟨0x2123, 0x2123, .valid⟩,
  ⟨0x2124, 0x2124, .shift (-8362) 1⟩, ⟨0x2125, 0x2125, .valid⟩,
  ⟨0x2126, 0x2126, .shift (-7517) 1⟩, ⟨0x2127, 0x2127, .valid⟩,
  ⟨0x2128, 0x2128, .shift (-8366) 1⟩, ⟨0x2129, 0x2129, .valid⟩,
  ⟨0x212A, 0x212A, .shift (-8383) 1⟩, ⟨0x212B, 0x212B, .shift (-8262) 1⟩,
  ⟨0x212C, 0x212D, .shift (-8394) 1⟩, ⟨0x212E, 0x212E, .valid⟩,
  ⟨0x212F, 0x2130, .text [0x65]⟩, ⟨0x2131, 0x2131, .shift (-8395) 1⟩,
  ⟨0x2132, 0x2132, .shift 28 1⟩, ⟨0x2133, 0x2133, .shift (-8390) 1⟩,
  ⟨0x2134, 0x2134, .shift (-8389) 1⟩, ⟨0x2135, 0x2138, .shift (-7013) 1⟩,
  ⟨0x2139, 0x2139, .shift (-8400) 1⟩, ⟨0x213A, 0x213A, .valid⟩,
  ⟨0x213B, 0x213B, .text [0x66, 0x61, 0x78]⟩, ⟨0x213C, 0x213C, .shift (-7548) 1⟩,
  ⟨0x213D, 0x213E, .text [0x3B3]⟩, ⟨0x213F, 0x213F, .shift (-7551) 1⟩,
  ⟨0x2140, 0x2140, .shift 209 1⟩, ⟨0x2141, 0x2144, .valid⟩, ⟨0x2145, 0x2146, .text [0x64]⟩,
  ⟨0x2147, 0x2147, .shift (-8418) 1⟩, ⟨0x2148, 0x2149, .shift (-8415) 1⟩,
  ⟨0x214A, 0x214F, .valid⟩, ⟨0x2150, 0x2150, .text [0x31, 0x2044, 0x37]⟩,
  ⟨0x2151, 0x2151, .text [0x31, 0x2044, 0x39]⟩,
  ⟨0x2152, 0x2152, .text [0x31, 0x2044, 0x31, 0x30]⟩,
  ⟨0x2153, 0x2153, .text [0x31, 0x2044, 0x33]⟩,
  ⟨0x2154, 0x2154, .text [0x32, 0x2044, 0x33]⟩,
  ⟨0x2155, 0x2155, .text [0x31, 0x2044, 0x35]⟩,
  ⟨0x2156, 0x2156, .text [0x32, 0x2044, 0x35]⟩,
  ⟨0x2157, 0x2157, .text [0x33, 0x2044, 0x35]⟩,
  ⟨0x2158, 0x2158, .text [0x34, 0x2044, 0x35]⟩,
  ⟨0x2159, 0x2159, .text [0x31, 0x2044, 0x36]⟩,
  ⟨0x215A, 0x215A, .text [0x35, 0x2044, 0x36]⟩,
  ⟨0x215B, 0x215B, .text [0x31, 0x2044, 0x38]⟩,
  ⟨0x215C, 0x215C, .text [0x33, 0x2044, 0x38]⟩,
  ⟨0x215D, 0x215D, .text [0x35, 0x2044, 0x38]⟩,
  ⟨0x215E, 0x215E, .text [0x37, 0x2044, 0x38]⟩, ⟨0x215F, 0x215F, .text [0x31, 0x2044]⟩,
  ⟨0x2160, 0x2160, .shift (-8439) 1⟩, ⟨0x2161, 0x2161, .text [0x69, 0x69]⟩,
  ⟨0x2162, 0x2162, .text [0x69, 0x69, 0x69]⟩, ⟨0x2163, 0x2163, .text [0x69, 0x76]⟩,
  ⟨0x2164, 0x2164, .shift (-8430) 1⟩, ⟨0x2165, 0x2165, .text [0x76, 0x69]⟩,
  ⟨0x2166, 0x2166, .text [0x76, 0x69, 0x69]⟩,
  ⟨0x2167, 0x2167, .text [0x76, 0x69, 0x69, 0x69]⟩, ⟨0x2168, 0x2168, .text [0x69, 0x78]⟩,
  ⟨0x2169, 0x2169, .shift (-8433) 1⟩, ⟨0x216A, 0x216A, .text [0x78, 0x69]⟩,
  ⟨0x216B, 0x216B, .text [0x78, 0x69, 0x69]⟩, ⟨0x216C, 0x216C, .shift (-8448) 1⟩,
  ⟨0x216D, 0x216E, .shift (-8458) 1⟩, ⟨0x216F, 0x216F, .shift (-8450) 1⟩,
  ⟨0x2170, 0x2170, .shift (-8455) 1⟩, ⟨0x2171, 0x2171, .text [0x69, 0x69]⟩,
  ⟨0x2172, 0x2172, .text [0x69, 0x69, 0x69]⟩, ⟨0x2173, 0x2173, .text [0x69, 0x76]⟩,
  ⟨0x2174, 0x2174, .shift (-8446) 1⟩, ⟨0x2175, 0x2175, .text [0x76, 0x69]⟩,
  ⟨0x2176, 0x2176, .text [0x76, 0x69, 0x69]⟩,
  ⟨0x2177, 0x2177, .text [0x76, 0x69, 0x69, 0x69]⟩, ⟨0x2178, 0x2178, .text [0x69, 0x78]⟩,
  ⟨0x2179, 0x2179, .shift (-8449) 1⟩, ⟨0x217A, 0x217A, .text [0x78, 0x69]⟩,
  ⟨0x217B, 0x217B, .text [0x78, 0x69, 0x69]⟩, ⟨0x217C, 0x217C, .shift (-8464) 1⟩,
  ⟨0x217D, 0x217E, .shift (-8474) 1⟩, ⟨0x217F, 0x217F, .shift (-8466) 1⟩,
  ⟨0x2180, 0x2182, .valid⟩, ⟨0x2183, 0x2183, .shift 1 1⟩, ⟨0x2184, 0x2188, .valid⟩,
  ⟨0x2189, 0x2189, .text [0x30, 0x2044, 0x33]⟩, ⟨0x218A, 0x218B, .valid⟩,
  ⟨0x218C, 0x218F, .disallowed⟩, ⟨0x2190, 0x222B, .valid⟩,
  ⟨0x222C, 0x222C, .text [0x222B, 0x222B]⟩,
  ⟨0x222D, 0x222D, .text [0x222B, 0x222B, 0x222B]⟩, ⟨0x222E, 0x222E, .valid⟩,
  ⟨0x222F, 0x222F, .text [0x222E, 0x222E]⟩,
  ⟨0x2230, 0x2230, .text [0x222E, 0x222E, 0x222E]⟩, ⟨0x2231, 0x2328, .valid⟩,
  ⟨0x2329, 0x232A, .shift 3295 1⟩, ⟨0x232B, 0x2429, .valid⟩, ⟨0x242A, 0x243F, .disallowed⟩,
  ⟨0x2440, 0x244A, .valid⟩, ⟨0x244B, 0x245F, .disallowed⟩,
  ⟨0x2460, 0x2468, .shift (-9263) 1⟩, ⟨0x2469, 0x2469, .text [0x31, 0x30]⟩,
  ⟨0x246A, 0x246A, .text [0x31, 0x31]⟩, ⟨0x246B, 0x246B, .text [0x31, 0x32]⟩,
  ⟨0x246C, 0x246C, .text [0x31, 0x33]⟩, ⟨0x246D, 0x246D, .text [0x31, 0x34]⟩,
  ⟨0x246E, 0x246E, .text [0x31, 0x35]⟩, ⟨0x246F, 0x246F, .text [0x31, 0x36]⟩,
  ⟨0x2470, 0x2470, .text [0x31, 0x37]⟩, ⟨0x2471, 0x2471, .text [0x31, 0x38]⟩,
  ⟨0x2472, 0x2472, .text [0x31, 0x39]⟩, ⟨0x2473, 0x2473, .text [0x32, 0x30]⟩,
  ⟨0x2474, 0x2474, .text [0x28, 0x31, 0x29]⟩, ⟨0x2475, 0x2475, .text [0x28, 0x32, 0x29]⟩,
  ⟨0x2476, 0x2476, .text [0x28, 0x33, 0x29]⟩, ⟨0x2477, 0x2477, .text [0x28, 0x34, 0x29]⟩,
  ⟨0x2478, 0x2478, .text [0x28, 0x35, 0x29]⟩, ⟨0x2479, 0x2479, .text [0x28, 0x36, 0x29]⟩,
  ⟨0x247A, 0x247A, .text [0x28, 0x37, 0x29]⟩, ⟨0x247B, 0x247B, .text [0x28, 0x38, 0x29]⟩,
  ⟨0x247C, 0x247C, .text [0x28, 0x39, 0x29]⟩,
  ⟨0x247D, 0x247D, .text [0x28, 0x31, 0x30, 0x29]⟩,
  ⟨0x247E, 0x247E, .text [0x28, 0x31, 0x31, 0x29]⟩,
  ⟨0x247F, 0x247F, .text [0x28, 0x31, 0x32, 0x29]⟩,
  ⟨0x2480, 0x2480, .text [0x28, 0x31, 0x33, 0x29]⟩,
  ⟨0x2481, 0x2481, .text [0x28, 0x31, 0x34, 0x29]⟩,
  ⟨0x2482, 0x2482, .text [0x28, 0x31, 0x35, 0x29]⟩,
  ⟨0x2483, 0x2483, .text [0x28, 0x31, 0x36, 0x29]⟩,
  ⟨0x2484, 0x2484, .text [0x28, 0x31, 0x37, 0x29]⟩,
  ⟨0x2485, 0x2485, .text [0x28, 0x31, 0x38, 0x29]⟩,
  ⟨0x2486, 0x2486, .text [0x28, 0x31, 0x39, 0x29]⟩,
  ⟨0x2487, 0x2487, .text [0x28, 0x32, 0x30, 0x29]⟩, ⟨0x2488, 0x249B, .disallowed⟩,
  ⟨0x249C, 0x249C, .text [0x28, 0x61, 0x29]⟩, ⟨0x249D, 0x249D, .text [0x28, 0x62, 0x29]⟩,
  ⟨0x249E, 0x249E, .text [0x28, 0x63, 0x29]⟩, ⟨0x249F, 0x249F, .text [0x28, 0x64, 0x29]⟩,
  ⟨0x24A0, 0x24A0, .text [0x28, 0x65, 0x29]⟩, ⟨0x24A1, 0x24A1, .text [0x28, 0x66, 0x29]⟩,
  ⟨0x24A2, 0x24A2, .text [0x28, 0x67, 0x29]⟩, ⟨0x24A3, 0x24A3, .text [0x28, 0x68, 0x29]⟩,
  ⟨0x24A4, 0x24A4, .text [0x28, 0x69, 0x29]⟩, ⟨0x24A5, 0x24A5, .text [0x28, 0x6A, 0x29]⟩,
  ⟨0x24A6, 0x24A6, .text [0x28, 0x6B, 0x29]⟩, ⟨0x24A7, 0x24A7, .text [0x28, 0x6C, 0x29]⟩,
  ⟨0x24A8, 0x24A8, .text [0x28, 0x6D, 0x29]⟩, ⟨0x24A9, 0x24A9, .text [0x28, 0x6E, 0x29]⟩,
  ⟨0x24AA, 0x24AA, .text [0x28, 0x6F, 0x29]⟩, ⟨0x24AB, 0x24AB, .text [0x28, 0x70, 0x29]⟩,
  ⟨0x24AC, 0x24AC, .text [0x28, 0x71, 0x29]⟩, ⟨0x24AD, 0x24AD, .text [0x28, 0x72, 0x29]⟩,
  ⟨0x24AE, 0x24AE, .text [0x28, 0x73, 0x29]⟩, ⟨0x24AF, 0x24AF, .text [0x28, 0x74, 0x29]⟩,
  ⟨0x24B0, 0x24B0, .text [0x28, 0x75, 0x29]⟩, ⟨0x24B1, 0x24B1, .text [0x28, 0x76, 0x29]⟩,
  ⟨0x24B2, 0x24B2, .text [0x28, 0x77, 0x29]⟩, ⟨0x24B3, 0x24B3, .text [0x28, 0x78, 0x29]⟩,
  ⟨0x24B4, 0x24B4, .text [0x28, 0x79, 0x29]⟩, ⟨0x24B5, 0x24B5, .text [0x28, 0x7A, 0x29]⟩,
  ⟨0x24B6, 0x24CF, .shift (-9301) 1⟩, ⟨0x24D0, 0x24E9, .shift (-9327) 1⟩,
  ⟨0x24EA, 0x24EA, .shift (-9402) 1⟩, ⟨0x24EB, 0x2A0B, .valid⟩,
  ⟨0x2A0C, 0x2A0C, .text [0x222B, 0x222B, 0x222B, 0x222B]⟩, ⟨0x2A0D, 0x2A73, .valid⟩,
  ⟨0x2A74, 0x2A74, .text [0x3A, 0x3A, 0x3D]⟩, ⟨0x2A75, 0x2A75, .text [0x3D, 0x3D]⟩,
  ⟨0x2A76, 0x2A76, .text [0x3D, 0x3D, 0x3D]⟩, ⟨0x2A77, 0x2ADB, .valid⟩,
  ⟨0x2ADC, 0x2ADC, .text [0x2ADD, 0x338]⟩, ⟨0x2ADD, 0x2B73, .valid⟩,
  ⟨0x2B74, 0x2B75, .disallowed⟩, ⟨0x2B76, 0x2BFF, .valid⟩, ⟨0x2C00, 0x2C2F, .shift 48 1⟩,
  ⟨0x2C30, 0x2C5F, .valid⟩, ⟨0x2C60, 0x2C60, .shift 1 1⟩, ⟨0x2C61, 0x2C61, .valid⟩,
  ⟨0x2C62, 0x2C62, .shift (-10743) 1⟩, ⟨0x2C63, 0x2C63, .shift (-3814) 1⟩,
  ⟨0x2C64, 0x2C64, .shift (-10727) 1⟩, ⟨0x2C65, 0x2C66, .valid⟩,
  ⟨0x2C67, 0x2C6B, .shift 1 2⟩, ⟨0x2C6C, 0x2C6C, .valid⟩,
  ⟨0x2C6D, 0x2C6D, .shift (-10780) 1⟩, ⟨0x2C6E, 0x2C6E, .shift (-10749) 1⟩,
  ⟨0x2C6F, 0x2C6F, .shift (-10783) 1⟩, ⟨0x2C70, 0x2C70, .shift (-10782) 1⟩,
  ⟨0x2C71, 0x2C71, .valid⟩, ⟨0x2C72, 0x2C72, .shift 1 1⟩, ⟨0x2C73, 0x2C74, .valid⟩,
  ⟨0x2C75, 0x2C75, .shift 1 1⟩, ⟨0x2C76, 0x2C7B, .valid⟩,
  ⟨0x2C7C, 0x2C7C, .shift (-11282) 1⟩, ⟨0x2C7D, 0x2C7D, .shift (-11271) 1⟩,
  ⟨0x2C7E, 0x2C7F, .shift (-10815) 1⟩, ⟨0x2C80, 0x2CE2, .shift 1 2⟩,
  ⟨0x2CE3, 0x2CEA, .valid⟩, ⟨0x2CEB, 0x2CED, .shift 1 2⟩, ⟨0x2CEE, 0x2CF1, .valid⟩,
  ⟨0x2CF2, 0x2CF2, .shift 1 1⟩, ⟨0x2CF3, 0x2CF3, .valid⟩, ⟨0x2CF4, 0x2CF8, .disallowed⟩,
  ⟨0x2CF9, 0x2D25, .valid⟩, ⟨0x2D26, 0x2D26, .disallowed⟩, ⟨0x2D27, 0x2D27, .valid⟩,
  ⟨0x2D28, 0x2D2C, .disallowed⟩, ⟨0x2D2D, 0x2D2D, .valid⟩, ⟨0x2D2E, 0x2D2F, .disallowed⟩,
  ⟨0x2D30, 0x2D67, .valid⟩, ⟨0x2D68, 0x2D6E, .disallowed⟩, ⟨0x2D6F, 0x2D6F, .shift (-14) 1⟩,
  ⟨0x2D70, 0x2D70, .valid⟩, ⟨0x2D71, 0x2D7E, .disallowed⟩, ⟨0x2D7F, 0x2D96, .valid⟩,
  ⟨0x2D97, 0x2D9F, .disallowed⟩, ⟨0x2DA0, 0x2DA6, .valid⟩, ⟨0x2DA7, 0x2DA7, .disallowed⟩,
  ⟨0x2DA8, 0x2DAE, .valid⟩, ⟨0x2DAF, 0x2DAF, .disallowed⟩, ⟨0x2DB0, 0x2DB6, .valid⟩,
  ⟨0x2DB7, 0x2DB7, .disallowed⟩, ⟨0x2DB8, 0x2DBE, .valid⟩, ⟨0x2DBF, 0x2DBF, .disallowed⟩,
  ⟨0x2DC0, 0x2DC6, .valid⟩, ⟨0x2DC7, 0x2DC7, .disallowed⟩, ⟨0x2DC8, 0x2DCE, .valid⟩,
  ⟨0x2DCF, 0x2DCF, .disallowed⟩, ⟨0x2DD0, 0x2DD6, .valid⟩, ⟨0x2DD7, 0x2DD7, .disallowed⟩,
  ⟨0x2DD8, 0x2DDE, .valid⟩, ⟨0x2DDF, 0x2DDF, .disallowed⟩, ⟨0x2DE0, 0x2E5D, .valid⟩,
  ⟨0x2E5E, 0x2E7F, .disallowed⟩, ⟨0x2E80, 0x2E99, .valid⟩, ⟨0x2E9A, 0x2E9A, .disallowed⟩,
  ⟨0x2E9B, 0x2E9E, .valid⟩, ⟨0x2E9F, 0x2E9F, .shift 15662 1⟩, ⟨0x2EA0, 0x2EF2, .valid⟩,
  ⟨0x2EF3, 0x2EF3, .shift 28844 1⟩, ⟨0x2EF4, 0x2EFF, .disallowed⟩,
  ⟨0x2F00, 0x2F00, .shift 7936 1⟩, ⟨0x2F01, 0x2F01, .shift 7975 1⟩,
  ⟨0x2F02, 0x2F02, .shift 7988 1⟩, ⟨0x2F03, 0x2F03, .shift 7996 1⟩,
  ⟨0x2F04, 0x2F04, .shift 8021 1⟩, ⟨0x2F05, 0x2F05, .shift 8064 1⟩,
  ⟨0x2F06, 0x2F06, .shift 8070 1⟩, ⟨0x2F07, 0x2F07, .shift 8089 1⟩,
  ⟨0x2F08, 0x2F08, .shift 8114 1⟩, ⟨0x2F09, 0x2F09, .shift 8758 1⟩,
  ⟨0x2F0A, 0x2F0A, .shift 8795 1⟩, ⟨0x2F0B, 0x2F0B, .shift 8800 1⟩,
  ⟨0x2F0C, 0x2F0C, .shift 8822 1⟩, ⟨0x2F0D, 0x2F0D, .shift 8841 1⟩,
  ⟨0x2F0E, 0x2F0E, .shift 8861 1⟩, ⟨0x2F0F, 0x2F0F, .shift 8913 1⟩,
  ⟨0x2F10, 0x2F10, .shift 8933 1⟩, ⟨0x2F11, 0x2F11, .shift 8943 1⟩,
  ⟨0x2F12, 0x2F12, .shift 9097 1⟩, ⟨0x2F13, 0x2F13, .shift 9190 1⟩,
  ⟨0x2F14, 0x2F14, .shift 9217 1⟩, ⟨0x2F15, 0x2F15, .shift 9221 1⟩,
  ⟨0x2F16, 0x2F16, .shift 9250 1⟩, ⟨0x2F17, 0x2F17, .shift 9258 1⟩,
  ⟨0x2F18, 0x2F18, .shift 9284 1⟩, ⟨0x2F19, 0x2F19, .shift 9296 1⟩,
  ⟨0x2F1A, 0x2F1A, .shift 9320 1⟩, ⟨0x2F1B, 0x2F1B, .shift 9371 1⟩,
  ⟨0x2F1C, 0x2F1C, .shift 9388 1⟩, ⟨0x2F1D, 0x2F1D, .shift 9414 1⟩,
  ⟨0x2F1E, 0x2F1E, .shift 10169 1⟩, ⟨0x2F1F, 0x2F1F, .shift 10240 1⟩,
  ⟨0x2F20, 0x2F20, .shift 10699 1⟩, ⟨0x2F21, 0x2F21, .shift 10721 1⟩,
  ⟨0x2F22, 0x2F22, .shift 10728 1⟩, ⟨0x2F23, 0x2F23, .shift 10738 1⟩,
  ⟨0x2F24, 0x2F24, .shift 10755 1⟩, ⟨0x2F25, 0x2F25, .shift 10830 1⟩,
  ⟨0x2F26, 0x2F26, .shift 11306 1⟩, ⟨0x2F27, 0x2F27, .shift 11353 1⟩,
  ⟨0x2F28, 0x2F28, .shift 11472 1⟩, ⟨0x2F29, 0x2F29, .shift 11494 1⟩,
  ⟨0x2F2A, 0x2F2A, .shift 11512 1⟩, ⟨0x2F2B, 0x2F2B, .shift 11533 1⟩,
  ⟨0x2F2C, 0x2F2C, .shift 11586 1⟩, ⟨0x2F2D, 0x2F2D, .shift 11588 1⟩,
  ⟨0x2F2E, 0x2F2E, .shift 11949 1⟩, ⟨0x2F2F, 0x2F2F, .shift 11958 1⟩,
  ⟨0x2F30, 0x2F30, .shift 11969 1⟩, ⟨0x2F31, 0x2F31, .shift 11981 1⟩,
  ⟨0x2F32, 0x2F32, .shift 12096 1⟩, ⟨0x2F33, 0x2F33, .shift 12103 1⟩,
  ⟨0x2F34, 0x2F34, .shift 12107 1⟩, ⟨0x2F35, 0x2F35, .shift 12223 1⟩,
  ⟨0x2F36, 0x2F36, .shift 12232 1⟩, ⟨0x2F37, 0x2F37, .shift 12244 1⟩,
  ⟨0x2F38, 0x2F38, .shift 12251 1⟩, ⟨0x2F39, 0x2F39, .shift 12311 1⟩,
  ⟨0x2F3A, 0x2F3A, .shift 12327 1⟩, ⟨0x2F3B, 0x2F3B, .shift 12344 1⟩,
  ⟨0x2F3C, 0x2F3C, .shift 12423 1⟩, ⟨0x2F3D, 0x2F3D, .shift 13003 1⟩,
  ⟨0x2F3E, 0x2F3E, .shift 13048 1⟩, ⟨0x2F3F, 0x2F3F, .shift 13068 1⟩,
  ⟨0x2F40, 0x2F40, .shift 13807 1⟩, ⟨0x2F41, 0x2F41, .shift 13811 1⟩,
  ⟨0x2F42, 0x2F42, .shift 13893 1⟩, ⟨0x2F43, 0x2F43, .shift 13908 1⟩,
  ⟨0x2F44, 0x2F44, .shift 13920 1⟩, ⟨0x2F45, 0x2F45, .shift 13940 1⟩,
  ⟨0x2F46, 0x2F46, .shift 13978 1⟩, ⟨0x2F47, 0x2F47, .shift 13982 1⟩,
  ⟨0x2F48, 0x2F48, .shift 14248 1⟩, ⟨0x2F49, 0x2F49, .shift 14271 1⟩,
  ⟨0x2F4A, 0x2F4A, .shift 14302 1⟩, ⟨0x2F4B, 0x2F4B, .shift 15317 1⟩,
  ⟨0x2F4C, 0x2F4C, .shift 15382 1⟩, ⟨0x2F4D, 0x2F4D, .shift 15404 1⟩,
  ⟨0x2F4E, 0x2F4E, .shift 15461 1⟩, ⟨0x2F4F, 0x2F4F, .shift 15484 1⟩,
  ⟨0x2F50, 0x2F50, .shift 15492 1⟩, ⟨0x2F51, 0x2F51, .shift 15498 1⟩,
  ⟨0x2F52, 0x2F52, .shift 15549 1⟩, ⟨0x2F53, 0x2F53, .shift 15553 1⟩,
  ⟨0x2F54, 0x2F54, .shift 15584 1⟩, ⟨0x2F55, 0x2F55, .shift 16662 1⟩,
  ⟨0x2F56, 0x2F56, .shift 17108 1⟩, ⟨0x2F57, 0x2F57, .shift 17119 1⟩,
  ⟨0x2F58, 0x2F58, .shift 17123 1⟩, ⟨0x2F59, 0x2F59, .shift 17126 1⟩,
  ⟨0x2F5A, 0x2F5A, .shift 17133 1⟩, ⟨0x2F5B, 0x2F5B, .shift 17150 1⟩,
  ⟨0x2F5C, 0x2F5C, .shift 17151 1⟩, ⟨0x2F5D, 0x2F5D, .shift 17231 1⟩,
  ⟨0x2F5E, 0x2F5E, .shift 17446 1⟩, ⟨0x2F5F, 0x2F5F, .shift 17450 1⟩,
  ⟨0x2F60, 0x2F60, .shift 17788 1⟩, ⟨0x2F61, 0x2F61, .shift 17797 1⟩,
  ⟨0x2F62, 0x2F62, .shift 17846 1⟩, ⟨0x2F63, 0x2F63, .shift 17852 1⟩,
  ⟨0x2F64, 0x2F64, .shift 17860 1⟩, ⟨0x2F65, 0x2F65, .shift 17867 1⟩,
  ⟨0x2F66, 0x2F66, .shift 17957 1⟩, ⟨0x2F67, 0x2F67, .shift 17963 1⟩,
  ⟨0x2F68, 0x2F68, .shift 18190 1⟩, ⟨0x2F69, 0x2F69, .shift 18196 1⟩,
  ⟨0x2F6A, 0x2F6A, .shift 18244 1⟩, ⟨0x2F6B, 0x2F6B, .shift 18260 1⟩,
  ⟨0x2F6C, 0x2F6C, .shift 18306 1⟩, ⟨0x2F6D, 0x2F6D, .shift 18542 1⟩,
  ⟨0x2F6E, 0x2F6E, .shift 18548 1⟩, ⟨0x2F6F, 0x2F6F, .shift 18564 1⟩,
  ⟨0x2F70, 0x2F70, .shift 18890 1⟩, ⟨0x2F71, 0x2F71, .shift 19015 1⟩,
  ⟨0x2F72, 0x2F72, .shift 19020 1⟩, ⟨0x2F73, 0x2F73, .shift 19201 1⟩,
  ⟨0x2F74, 0x2F74, .shift 19287 1⟩, ⟨0x2F75, 0x2F75, .shift 19332 1⟩,
  ⟨0x2F76, 0x2F76, .shift 19709 1⟩, ⟨0x2F77, 0x2F77, .shift 19841 1⟩,
  ⟨0x2F78, 0x2F78, .shift 20414 1⟩, ⟨0x2F79, 0x2F79, .shift 20440 1⟩,
  ⟨0x2F7A, 0x2F7A, .shift 20496 1⟩, ⟨0x2F7B, 0x2F7B, .shift 20546 1⟩,
  ⟨0x2F7C, 0x2F7C, .shift 20613 1⟩, ⟨0x2F7D, 0x2F7D, .shift 20623 1⟩,
  ⟨0x2F7E, 0x2F7E, .shift 20628 1⟩, ⟨0x2F7F, 0x2F7F, .shift 20660 1⟩,
  ⟨0x2F80, 0x2F80, .shift 20735 1⟩, ⟨0x2F81, 0x2F81, .shift 20744 1⟩,
  ⟨0x2F82, 0x2F82, .shift 21089 1⟩, ⟨0x2F83, 0x2F83, .shift 21095 1⟩,
  ⟨0x2F84, 0x2F84, .shift 21103 1⟩, ⟨0x2F85, 0x2F85, .shift 21111 1⟩,
  ⟨0x2F86, 0x2F86, .shift 21126 1⟩, ⟨0x2F87, 0x2F87, .shift 21140 1⟩,
  ⟨0x2F88, 0x2F88, .shift 21143 1⟩, ⟨0x2F89, 0x2F89, .shift 21221 1⟩,
  ⟨0x2F8A, 0x2F8A, .shift 21224 1⟩, ⟨0x2F8B, 0x2F8B, .shift 21229 1⟩,
  ⟨0x2F8C, 0x2F8C, .shift 22209 1⟩, ⟨0x2F8D, 0x2F8D, .shift 22238 1⟩,
  ⟨0x2F8E, 0x2F8E, .shift 22706 1⟩, ⟨0x2F8F, 0x2F8F, .shift 22717 1⟩,
  ⟨0x2F90, 0x2F90, .shift 22739 1⟩, ⟨0x2F91, 0x2F91, .shift 23021 1⟩,
  ⟨0x2F92, 0x2F92, .shift 23033 1⟩, ⟨0x2F93, 0x2F93, .shift 23103 1⟩,
  ⟨0x2F94, 0x2F94, .shift 23148 1⟩, ⟨0x2F95, 0x2F95, .shift 23714 1⟩,
  ⟨0x2F96, 0x2F96, .shift 23728 1⟩, ⟨0x2F97, 0x2F97, .shift 23742 1⟩,
  ⟨0x2F98, 0x2F98, .shift 23776 1⟩, ⟨0x2F99, 0x2F99, .shift 23812 1⟩,
  ⟨0x2F9A, 0x2F9A, .shift 24010 1⟩, ⟨0x2F9B, 0x2F9B, .shift 24021 1⟩,
  ⟨0x2F9C, 0x2F9C, .shift 24087 1⟩, ⟨0x2F9D, 0x2F9D, .shift 24334 1⟩,
  ⟨0x2F9E, 0x2F9E, .shift 24364 1⟩, ⟨0x2F9F, 0x2F9F, .shift 24572 1⟩,
  ⟨0x2FA0, 0x2FA0, .shift 24592 1⟩, ⟨0x2FA1, 0x2FA1, .shift 24596 1⟩,
  ⟨0x2FA2, 0x2FA2, .shift 24815 1⟩, ⟨0x2FA3, 0x2FA3, .shift 24998 1⟩,
  ⟨0x2FA4, 0x2FA4, .shift 25122 1⟩, ⟨0x2FA5, 0x2FA5, .shift 25127 1⟩,
  ⟨0x2FA6, 0x2FA6, .shift 25131 1⟩, ⟨0x2FA7, 0x2FA7, .shift 26064 1⟩,
  ⟨0x2FA8, 0x2FA8, .shift 26072 1⟩, ⟨0x2FA9, 0x2FA9, .shift 26227 1⟩,
  ⟨0x2FAA, 0x2FAA, .shift 26380 1⟩, ⟨0x2FAB, 0x2FAB, .shift 26382 1⟩,
  ⟨0x2FAC, 0x2FAC, .shift 26428 1⟩, ⟨0x2FAD, 0x2FAD, .shift 26532 1⟩,
  ⟨0x2FAE, 0x2FAE, .shift 26544 1⟩, ⟨0x2FAF, 0x2FAF, .shift 26547 1⟩,
  ⟨0x2FB0, 0x2FB0, .shift 26553 1⟩, ⟨0x2FB1, 0x2FB1, .shift 26650 1⟩,
  ⟨0x2FB2, 0x2FB2, .shift 26683 1⟩, ⟨0x2FB3, 0x2FB3, .shift 26688 1⟩,
  ⟨0x2FB4, 0x2FB4, .shift 26701 1⟩, ⟨0x2FB5, 0x2FB5, .shift 26867 1⟩,
  ⟨0x2FB6, 0x2FB6, .shift 26917 1⟩, ⟨0x2FB7, 0x2FB7, .shift 26920 1⟩,
  ⟨0x2FB8, 0x2FB8, .shift 27102 1⟩, ⟨0x2FB9, 0x2FB9, .shift 27104 1⟩,
  ⟨0x2FBA, 0x2FBA, .shift 27122 1⟩, ⟨0x2FBB, 0x2FBB, .shift 27373 1⟩,
  ⟨0x2FBC, 0x2FBC, .shift 27420 1⟩, ⟨0x2FBD, 0x2FBD, .shift 27426 1⟩,
  ⟨0x2FBE, 0x2FBE, .shift 27495 1⟩, ⟨0x2FBF, 0x2FBF, .shift 27504 1⟩,
  ⟨0x2FC0, 0x2FC0, .shift 27506 1⟩, ⟨0x2FC1, 0x2FC1, .shift 27515 1⟩,
  ⟨0x2FC2, 0x2FC2, .shift 27544 1⟩, ⟨0x2FC3, 0x2FC3, .shift 27938 1⟩,
  ⟨0x2FC4, 0x2FC4, .shift 28337 1⟩, ⟨0x2FC5, 0x2FC5, .shift 28346 1⟩,
  ⟨0x2FC6, 0x2FC6, .shift 28383 1⟩, ⟨0x2FC7, 0x2FC7, .shift 28404 1⟩,
  ⟨0x2FC8, 0x2FC8, .shift 28411 1⟩, ⟨0x2FC9, 0x2FC9, .shift 28420 1⟩,
  ⟨0x2FCA, 0x2FCA, .shift 28423 1⟩, ⟨0x2FCB, 0x2FCB, .shift 28462 1⟩,
  ⟨0x2FCC, 0x2FCC, .shift 28465 1⟩, ⟨0x2FCD, 0x2FCD, .shift 28481 1⟩,
  ⟨0x2FCE, 0x2FCE, .shift 28485 1⟩, ⟨0x2FCF, 0x2FCF, .shift 28497 1⟩,
  ⟨0x2FD0, 0x2FD0, .shift 28523 1⟩, ⟨0x2FD1, 0x2FD1, .shift 28537 1⟩,
  ⟨0x2FD2, 0x2FD2, .shift 28544 1⟩, ⟨0x2FD3, 0x2FD3, .shift 28602 1⟩,
  ⟨0x2FD4, 0x2FD4, .shift 28616 1⟩, ⟨0x2FD5, 0x2FD5, .shift 28619 1⟩,
  ⟨0x2FD6, 0x2FFF, .disallowed⟩, ⟨0x3000, 0x3000, .shift (-12256) 1⟩,
  ⟨0x3001, 0x3001, .valid⟩, ⟨0x3002, 0x3002, .shift (-12244) 1⟩, ⟨0x3003, 0x3035, .valid⟩,
  ⟨0x3036, 0x3036, .shift (-36) 1⟩, ⟨0x3037, 0x3037, .valid⟩,
  ⟨0x3038, 0x3038, .shift 8969 1⟩, ⟨0x3039, 0x303A, .shift 8971 1⟩,
  ⟨0x303B, 0x303F, .valid⟩, ⟨0x3040, 0x3040, .disallowed⟩, ⟨0x3041, 0x3096, .valid⟩,
  ⟨0x3097, 0x3098, .disallowed⟩, ⟨0x3099, 0x309A, .valid⟩,
  ⟨0x309B, 0x309B, .text [0x20, 0x3099]⟩, ⟨0x309C, 0x309C, .text [0x20, 0x309A]⟩,
  ⟨0x309D, 0x309E, .valid⟩, ⟨0x309F, 0x309F, .text [0x3088, 0x308A]⟩,
  ⟨0x30A0, 0x30FE, .valid⟩, ⟨0x30FF, 0x30FF, .text [0x30B3, 0x30C8]⟩,
  ⟨0x3100, 0x3104, .disallowed⟩, ⟨0x3105, 0x312F, .valid⟩, ⟨0x3130, 0x3130, .disallowed⟩,
  ⟨0x3131, 0x3132, .shift (-8241) 1⟩, ⟨0x3133, 0x3133, .shift (-8073) 1⟩,
  ⟨0x3134, 0x3134, .shift (-8242) 1⟩, ⟨0x3135, 0x3136, .shift (-8073) 1⟩,
  ⟨0x3137, 0x3139, .shift (-8244) 1⟩, ⟨0x313A, 0x313F, .shift (-8074) 1⟩,
  ⟨0x3140, 0x3140, .shift (-8230) 1⟩, ⟨0x3141, 0x3143, .shift (-8251) 1⟩,
  ⟨0x3144, 0x3144, .shift (-8227) 1⟩, ⟨0x3145, 0x314E, .shift (-8252) 1⟩,
  ⟨0x314F, 0x3163, .shift (-8174) 1⟩, ⟨0x3164, 0x3164, .ignored⟩,
  ⟨0x3165, 0x3166, .shift (-8273) 1⟩, ⟨0x3167, 0x3168, .shift (-8096) 1⟩,
  ⟨0x3169, 0x3169, .shift (-8093) 1⟩, ⟨0x316A, 0x316A, .shift (-8092) 1⟩,
  ⟨0x316B, 0x316B, .shift (-8088) 1⟩, ⟨0x316C, 0x316C, .shift (-8085) 1⟩]

/-- The runs from U+316D to U+33FE. -/
def runsFrom316D : List Run := [
  ⟨0x316D, 0x316D, .shift (-8084) 1⟩, ⟨0x316E, 0x316E, .shift (-8274) 1⟩,
  ⟨0x316F, 0x316F, .shift (-8082) 1⟩, ⟨0x3170, 0x3170, .shift (-8081) 1⟩,
  ⟨0x3171, 0x3172, .shift (-8276) 1⟩, ⟨0x3173, 0x3173, .shift (-8275) 1⟩,
  ⟨0x3174, 0x3175, .shift (-8274) 1⟩, ⟨0x3176, 0x3176, .shift (-8271) 1⟩,
  ⟨0x3177, 0x3177, .shift (-8270) 1⟩, ⟨0x3178, 0x317C, .shift (-8269) 1⟩,
  ⟨0x317D, 0x317D, .shift (-8267) 1⟩, ⟨0x317E, 0x317E, .shift (-8264) 1⟩,
  ⟨0x317F, 0x317F, .shift (-8255) 1⟩, ⟨0x3180, 0x3180, .shift (-8249) 1⟩,
  ⟨0x3181, 0x3181, .shift (-8245) 1⟩, ⟨0x3182, 0x3183, .shift (-8081) 1⟩,
  ⟨0x3184, 0x3186, .shift (-8237) 1⟩, ⟨0x3187, 0x3188, .shift (-8195) 1⟩,
  ⟨0x3189, 0x3189, .shift (-8193) 1⟩, ⟨0x318A, 0x318B, .shift (-8185) 1⟩,
  ⟨0x318C, 0x318C, .shift (-8184) 1⟩, ⟨0x318D, 0x318D, .shift (-8175) 1⟩,
  ⟨0x318E, 0x318E, .shift (-8173) 1⟩, ⟨0x318F, 0x318F, .disallowed⟩,
  ⟨0x3190, 0x3191, .valid⟩, ⟨0x3192, 0x3192, .shift 7278 1⟩,
  ⟨0x3193, 0x3193, .shift 7417 1⟩, ⟨0x3194, 0x3194, .shift 7285 1⟩,
  ⟨0x3195, 0x3195, .shift 9542 1⟩, ⟨0x3196, 0x3196, .shift 7284 1⟩,
  ⟨0x3197, 0x3197, .shift 7318 1⟩, ⟨0x3198, 0x3198, .shift 7283 1⟩,
  ⟨0x3199, 0x3199, .shift 17305 1⟩, ⟨0x319A, 0x319A, .shift 7359 1⟩,
  ⟨0x319B, 0x319B, .shift 7294 1⟩, ⟨0x319C, 0x319C, .shift 7269 1⟩,
  ⟨0x319D, 0x319D, .shift 10124 1⟩, ⟨0x319E, 0x319E, .shift 9618 1⟩,
  ⟨0x319F, 0x319F, .shift 7451 1⟩, ⟨0x31A0, 0x31E5, .valid⟩, ⟨0x31E6, 0x31EF, .disallowed⟩,
  ⟨0x31F0, 0x31FF, .valid⟩, ⟨0x3200, 0x3200, .text [0x28, 0x1100, 0x29]⟩,
  ⟨0x3201, 0x3201, .text [0x28, 0x1102, 0x29]⟩,
  ⟨0x3202, 0x3202, .text [0x28, 0x1103, 0x29]⟩,
  ⟨0x3203, 0x3203, .text [0x28, 0x1105, 0x29]⟩,
  ⟨0x3204, 0x3204, .text [0x28, 0x1106, 0x29]⟩,
  ⟨0x3205, 0x3205, .text [0x28, 0x1107, 0x29]⟩,
  ⟨0x3206, 0x3206, .text [0x28, 0x1109, 0x29]⟩,
  ⟨0x3207, 0x3207, .text [0x28, 0x110B, 0x29]⟩,
  ⟨0x3208, 0x3208, .text [0x28, 0x110C, 0x29]⟩,
  ⟨0x3209, 0x3209, .text [0x28, 0x110E, 0x29]⟩,
  ⟨0x320A, 0x320A, .text [0x28, 0x110F, 0x29]⟩,
  ⟨0x320B, 0x320B, .text [0x28, 0x1110, 0x29]⟩,
  ⟨0x320C, 0x320C, .text [0x28, 0x1111, 0x29]⟩,
  ⟨0x320D, 0x320D, .text [0x28, 0x1112, 0x29]⟩,
  ⟨0x320E, 0x320E, .text [0x28, 0xAC00, 0x29]⟩,
  ⟨0x320F, 0x320F, .text [0x28, 0xB098, 0x29]⟩,
  ⟨0x3210, 0x3210, .text [0x28, 0xB2E4, 0x29]⟩,
  ⟨0x3211, 0x3211, .text [0x28, 0xB77C, 0x29]⟩,
  ⟨0x3212, 0x3212, .text [0x28, 0xB9C8, 0x29]⟩,
  ⟨0x3213, 0x3213, .text [0x28, 0xBC14, 0x29]⟩,
  ⟨0x3214, 0x3214, .text [0x28, 0xC0AC, 0x29]⟩,
  ⟨0x3215, 0x3215, .text [0x28, 0xC544, 0x29]⟩,
  ⟨0x3216, 0x3216, .text [0x28, 0xC790, 0x29]⟩,
  ⟨0x3217, 0x3217, .text [0x28, 0xCC28, 0x29]⟩,
  ⟨0x3218, 0x3218, .text [0x28, 0xCE74, 0x29]⟩,
  ⟨0x3219, 0x3219, .text [0x28, 0xD0C0, 0x29]⟩,
  ⟨0x321A, 0x321A, .text [0x28, 0xD30C, 0x29]⟩,
  ⟨0x321B, 0x321B, .text [0x28, 0xD558, 0x29]⟩,
  ⟨0x321C, 0x321C, .text [0x28, 0xC8FC, 0x29]⟩,
  ⟨0x321D, 0x321D, .text [0x28, 0xC624, 0xC804, 0x29]⟩,
  ⟨0x321E, 0x321E, .text [0x28, 0xC624, 0xD6C4, 0x29]⟩, ⟨0x321F, 0x321F, .disallowed⟩,
  ⟨0x3220, 0x3220, .text [0x28, 0x4E00, 0x29]⟩,
  ⟨0x3221, 0x3221, .text [0x28, 0x4E8C, 0x29]⟩,
  ⟨0x3222, 0x3222, .text [0x28, 0x4E09, 0x29]⟩,
  ⟨0x3223, 0x3223, .text [0x28, 0x56DB, 0x29]⟩,
  ⟨0x3224, 0x3224, .text [0x28, 0x4E94, 0x29]⟩,
  ⟨0x3225, 0x3225, .text [0x28, 0x516D, 0x29]⟩,
  ⟨0x3226, 0x3226, .text [0x28, 0x4E03, 0x29]⟩,
  ⟨0x3227, 0x3227, .text [0x28, 0x516B, 0x29]⟩,
  ⟨0x3228, 0x3228, .text [0x28, 0x4E5D, 0x29]⟩,
  ⟨0x3229, 0x3229, .text [0x28, 0x5341, 0x29]⟩,
  ⟨0x322A, 0x322A, .text [0x28, 0x6708, 0x29]⟩,
  ⟨0x322B, 0x322B, .text [0x28, 0x706B, 0x29]⟩,
  ⟨0x322C, 0x322C, .text [0x28, 0x6C34, 0x29]⟩,
  ⟨0x322D, 0x322D, .text [0x28, 0x6728, 0x29]⟩,
  ⟨0x322E, 0x322E, .text [0x28, 0x91D1, 0x29]⟩,
  ⟨0x322F, 0x322F, .text [0x28, 0x571F, 0x29]⟩,
  ⟨0x3230, 0x3230, .text [0x28, 0x65E5, 0x29]⟩,
  ⟨0x3231, 0x3231, .text [0x28, 0x682A, 0x29]⟩,
  ⟨0x3232, 0x3232, .text [0x28, 0x6709, 0x29]⟩,
  ⟨0x3233, 0x3233, .text [0x28, 0x793E, 0x29]⟩,
  ⟨0x3234, 0x3234, .text [0x28, 0x540D, 0x29]⟩,
  ⟨0x3235, 0x3235, .text [0x28, 0x7279, 0x29]⟩,
  ⟨0x3236, 0x3236, .text [0x28, 0x8CA1, 0x29]⟩,
  ⟨0x3237, 0x3237, .text [0x28, 0x795D, 0x29]⟩,
  ⟨0x3238, 0x3238, .text [0x28, 0x52B4, 0x29]⟩,
  ⟨0x3239, 0x3239, .text [0x28, 0x4EE3, 0x29]⟩,
  ⟨0x323A, 0x323A, .text [0x28, 0x547C, 0x29]⟩,
  ⟨0x323B, 0x323B, .text [0x28, 0x5B66, 0x29]⟩,
  ⟨0x323C, 0x323C, .text [0x28, 0x76E3, 0x29]⟩,
  ⟨0x323D, 0x323D, .text [0x28, 0x4F01, 0x29]⟩,
  ⟨0x323E, 0x323E, .text [0x28, 0x8CC7, 0x29]⟩,
  ⟨0x323F, 0x323F, .text [0x28, 0x5354, 0x29]⟩,
  ⟨0x3240, 0x3240, .text [0x28, 0x796D, 0x29]⟩,
  ⟨0x3241, 0x3241, .text [0x28, 0x4F11, 0x29]⟩,
  ⟨0x3242, 0x3242, .text [0x28, 0x81EA, 0x29]⟩,
  ⟨0x3243, 0x3243, .text [0x28, 0x81F3, 0x29]⟩, ⟨0x3244, 0x3244, .shift 8971 1⟩,
  ⟨0x3245, 0x3245, .shift 11319 1⟩, ⟨0x3246, 0x3246, .shift 13121 1⟩,
  ⟨0x3247, 0x3247, .shift 18760 1⟩, ⟨0x3248, 0x324F, .valid⟩,
  ⟨0x3250, 0x3250, .text [0x70, 0x74, 0x65]⟩, ⟨0x3251, 0x3251, .text [0x32, 0x31]⟩,
  ⟨0x3252, 0x3252, .text [0x32, 0x32]⟩, ⟨0x3253, 0x3253, .text [0x32, 0x33]⟩,
  ⟨0x3254, 0x3254, .text [0x32, 0x34]⟩, ⟨0x3255, 0x3255, .text [0x32, 0x35]⟩,
  ⟨0x3256, 0x3256, .text [0x32, 0x36]⟩, ⟨0x3257, 0x3257, .text [0x32, 0x37]⟩,
  ⟨0x3258, 0x3258, .text [0x32, 0x38]⟩, ⟨0x3259, 0x3259, .text [0x32, 0x39]⟩,
  ⟨0x325A, 0x325A, .text [0x33, 0x30]⟩, ⟨0x325B, 0x325B, .text [0x33, 0x31]⟩,
  ⟨0x325C, 0x325C, .text [0x33, 0x32]⟩, ⟨0x325D, 0x325D, .text [0x33, 0x33]⟩,
  ⟨0x325E, 0x325E, .text [0x33, 0x34]⟩, ⟨0x325F, 0x325F, .text [0x33, 0x35]⟩,
  ⟨0x3260, 0x3260, .shift (-8544) 1⟩, ⟨0x3261, 0x3262, .shift (-8543) 1⟩,
  ⟨0x3263, 0x3265, .shift (-8542) 1⟩, ⟨0x3266, 0x3266, .shift (-8541) 1⟩,
  ⟨0x3267, 0x3268, .shift (-8540) 1⟩, ⟨0x3269, 0x326D, .shift (-8539) 1⟩,
  ⟨0x326E, 0x326E, .shift 31122 1⟩, ⟨0x326F, 0x326F, .shift 32297 1⟩,
  ⟨0x3270, 0x3270, .shift 32884 1⟩, ⟨0x3271, 0x3271, .shift 34059 1⟩,
  ⟨0x3272, 0x3272, .shift 34646 1⟩, ⟨0x3273, 0x3273, .shift 35233 1⟩,
  ⟨0x3274, 0x3274, .shift 36408 1⟩, ⟨0x3275, 0x3275, .shift 37583 1⟩,
  ⟨0x3276, 0x3276, .shift 38170 1⟩, ⟨0x3277, 0x3277, .shift 39345 1⟩,
  ⟨0x3278, 0x3278, .shift 39932 1⟩, ⟨0x3279, 0x3279, .shift 40519 1⟩,
  ⟨0x327A, 0x327A, .shift 41106 1⟩, ⟨0x327B, 0x327B, .shift 41693 1⟩,
  ⟨0x327C, 0x327C, .text [0xCC38, 0xACE0]⟩, ⟨0x327D, 0x327D, .text [0xC8FC, 0xC758]⟩,
  ⟨0x327E, 0x327E, .shift 37938 1⟩, ⟨0x327F, 0x327F, .valid⟩,
  ⟨0x3280, 0x3280, .shift 7040 1⟩, ⟨0x3281, 0x3281, .shift 7179 1⟩,
  ⟨0x3282, 0x3282, .shift 7047 1⟩, ⟨0x3283, 0x3283, .shift 9304 1⟩,
  ⟨0x3284, 0x3284, .shift 7184 1⟩, ⟨0x3285, 0x3285, .shift 7912 1⟩,
  ⟨0x3286, 0x3286, .shift 7037 1⟩, ⟨0x3287, 0x3287, .shift 7908 1⟩,
  ⟨0x3288, 0x3288, .shift 7125 1⟩, ⟨0x3289, 0x3289, .shift 8376 1⟩,
  ⟨0x328A, 0x328A, .shift 13438 1⟩, ⟨0x328B, 0x328B, .shift 15840 1⟩,
  ⟨0x328C, 0x328C, .shift 14760 1⟩, ⟨0x328D, 0x328D, .shift 13467 1⟩,
  ⟨0x328E, 0x328E, .shift 24387 1⟩, ⟨0x328F, 0x328F, .shift 9360 1⟩,
  ⟨0x3290, 0x3290, .shift 13141 1⟩, ⟨0x3291, 0x3291, .shift 13721 1⟩,
  ⟨0x3292, 0x3292, .shift 13431 1⟩, ⟨0x3293, 0x3293, .shift 18091 1⟩,
  ⟨0x3294, 0x3294, .shift 8569 1⟩, ⟨0x3295, 0x3295, .shift 16356 1⟩,
  ⟨0x3296, 0x3296, .shift 23051 1⟩, ⟨0x3297, 0x3297, .shift 18118 1⟩,
  ⟨0x3298, 0x3298, .shift 8220 1⟩, ⟨0x3299, 0x3299, .shift 18239 1⟩,
  ⟨0x329A, 0x329A, .shift 17053 1⟩, ⟨0x329B, 0x329B, .shift 9944 1⟩,
  ⟨0x329C, 0x329C, .shift 24013 1⟩, ⟨0x329D, 0x329D, .shift 7821 1⟩,
  ⟨0x329E, 0x329E, .shift 8402 1⟩, ⟨0x329F, 0x329F, .shift 14921 1⟩,
  ⟨0x32A0, 0x32A0, .shift 25957 1⟩, ⟨0x32A1, 0x32A1, .shift 7280 1⟩,
  ⟨0x32A2, 0x32A2, .shift 7927 1⟩, ⟨0x32A3, 0x32A3, .shift 14528 1⟩,
  ⟨0x32A4, 0x32A4, .shift 7014 1⟩, ⟨0x32A5, 0x32A5, .shift 7048 1⟩,
  ⟨0x32A6, 0x32A6, .shift 7013 1⟩, ⟨0x32A7, 0x32A7, .shift 11071 1⟩,
  ⟨0x32A8, 0x32A8, .shift 8523 1⟩, ⟨0x32A9, 0x32A9, .shift 8338 1⟩,
  ⟨0x32AA, 0x32AA, .shift 10477 1⟩, ⟨0x32AB, 0x32AB, .shift 10427 1⟩,
  ⟨0x32AC, 0x32AC, .shift 17463 1⟩, ⟨0x32AD, 0x32AD, .shift 7252 1⟩,
  ⟨0x32AE, 0x32AE, .shift 23065 1⟩, ⟨0x32AF, 0x32AF, .shift 8357 1⟩,
  ⟨0x32B0, 0x32B0, .shift 9836 1⟩, ⟨0x32B1, 0x32B1, .text [0x33, 0x36]⟩,
  ⟨0x32B2, 0x32B2, .text [0x33, 0x37]⟩, ⟨0x32B3, 0x32B3, .text [0x33, 0x38]⟩,
  ⟨0x32B4, 0x32B4, .text [0x33, 0x39]⟩, ⟨0x32B5, 0x32B5, .text [0x34, 0x30]⟩,
  ⟨0x32B6, 0x32B6, .text [0x34, 0x31]⟩, ⟨0x32B7, 0x32B7, .text [0x34, 0x32]⟩,
  ⟨0x32B8, 0x32B8, .text [0x34, 0x33]⟩, ⟨0x32B9, 0x32B9, .text [0x34, 0x34]⟩,
  ⟨0x32BA, 0x32BA, .text [0x34, 0x35]⟩, ⟨0x32BB, 0x32BB, .text [0x34, 0x36]⟩,
  ⟨0x32BC, 0x32BC, .text [0x34, 0x37]⟩, ⟨0x32BD, 0x32BD, .text [0x34, 0x38]⟩,
  ⟨0x32BE, 0x32BE, .text [0x34, 0x39]⟩, ⟨0x32BF, 0x32BF, .text [0x35, 0x30]⟩,
  ⟨0x32C0, 0x32C0, .text [0x31, 0x6708]⟩, ⟨0x32C1, 0x32C1, .text [0x32, 0x6708]⟩,
  ⟨0x32C2, 0x32C2, .text [0x33, 0x6708]⟩, ⟨0x32C3, 0x32C3, .text [0x34, 0x6708]⟩,
  ⟨0x32C4, 0x32C4, .text [0x35, 0x6708]⟩, ⟨0x32C5, 0x32C5, .text [0x36, 0x6708]⟩,
  ⟨0x32C6, 0x32C6, .text [0x37, 0x6708]⟩, ⟨0x32C7, 0x32C7, .text [0x38, 0x6708]⟩,
  ⟨0x32C8, 0x32C8, .text [0x39, 0x6708]⟩, ⟨0x32C9, 0x32C9, .text [0x31, 0x30, 0x6708]⟩,
  ⟨0x32CA, 0x32CA, .text [0x31, 0x31, 0x6708]⟩,
  ⟨0x32CB, 0x32CB, .text [0x31, 0x32, 0x6708]⟩, ⟨0x32CC, 0x32CC, .text [0x68, 0x67]⟩,
  ⟨0x32CD, 0x32CD, .text [0x65, 0x72, 0x67]⟩, ⟨0x32CE, 0x32CE, .text [0x65, 0x76]⟩,
  ⟨0x32CF, 0x32CF, .text [0x6C, 0x74, 0x64]⟩, ⟨0x32D0, 0x32D0, .shift (-558) 1⟩,
  ⟨0x32D1, 0x32D1, .shift (-557) 1⟩, ⟨0x32D2, 0x32D2, .shift (-556) 1⟩,
  ⟨0x32D3, 0x32D3, .shift (-555) 1⟩, ⟨0x32D4, 0x32D5, .shift (-554) 1⟩,
  ⟨0x32D6, 0x32D6, .shift (-553) 1⟩, ⟨0x32D7, 0x32D7, .shift (-552) 1⟩,
  ⟨0x32D8, 0x32D8, .shift (-551) 1⟩, ⟨0x32D9, 0x32D9, .shift (-550) 1⟩,
  ⟨0x32DA, 0x32DA, .shift (-549) 1⟩, ⟨0x32DB, 0x32DB, .shift (-548) 1⟩,
  ⟨0x32DC, 0x32DC, .shift (-547) 1⟩, ⟨0x32DD, 0x32DD, .shift (-546) 1⟩,
  ⟨0x32DE, 0x32DE, .shift (-545) 1⟩, ⟨0x32DF, 0x32DF, .shift (-544) 1⟩,
  ⟨0x32E0, 0x32E0, .shift (-543) 1⟩, ⟨0x32E1, 0x32E1, .shift (-541) 1⟩,
  ⟨0x32E2, 0x32E2, .shift (-540) 1⟩, ⟨0x32E3, 0x32E3, .shift (-539) 1⟩,
  ⟨0x32E4, 0x32E9, .shift (-538) 1⟩, ⟨0x32EA, 0x32EA, .shift (-536) 1⟩,
  ⟨0x32EB, 0x32EB, .shift (-534) 1⟩, ⟨0x32EC, 0x32EC, .shift (-532) 1⟩,
  ⟨0x32ED, 0x32ED, .shift (-530) 1⟩, ⟨0x32EE, 0x32F2, .shift (-528) 1⟩,
  ⟨0x32F3, 0x32F3, .shift (-527) 1⟩, ⟨0x32F4, 0x32F4, .shift (-526) 1⟩,
  ⟨0x32F5, 0x32FA, .shift (-525) 1⟩, ⟨0x32FB, 0x32FE, .shift (-524) 1⟩,
  ⟨0x32FF, 0x32FF, .text [0x4EE4, 0x548C]⟩,
  ⟨0x3300, 0x3300, .text [0x30A2, 0x30D1, 0x30FC, 0x30C8]⟩,
  ⟨0x3301, 0x3301, .text [0x30A2, 0x30EB, 0x30D5, 0x30A1]⟩,
  ⟨0x3302, 0x3302, .text [0x30A2, 0x30F3, 0x30DA, 0x30A2]⟩,
  ⟨0x3303, 0x3303, .text [0x30A2, 0x30FC, 0x30EB]⟩,
  ⟨0x3304, 0x3304, .text [0x30A4, 0x30CB, 0x30F3, 0x30B0]⟩,
  ⟨0x3305, 0x3305, .text [0x30A4, 0x30F3, 0x30C1]⟩,
  ⟨0x3306, 0x3306, .text [0x30A6, 0x30A9, 0x30F3]⟩,
  ⟨0x3307, 0x3307, .text [0x30A8, 0x30B9, 0x30AF, 0x30FC, 0x30C9]⟩,
  ⟨0x3308, 0x3308, .text [0x30A8, 0x30FC, 0x30AB, 0x30FC]⟩,
  ⟨0x3309, 0x3309, .text [0x30AA, 0x30F3, 0x30B9]⟩,
  ⟨0x330A, 0x330A, .text [0x30AA, 0x30FC, 0x30E0]⟩,
  ⟨0x330B, 0x330B, .text [0x30AB, 0x30A4, 0x30EA]⟩,
  ⟨0x330C, 0x330C, .text [0x30AB, 0x30E9, 0x30C3, 0x30C8]⟩,
  ⟨0x330D, 0x330D, .text [0x30AB, 0x30ED, 0x30EA, 0x30FC]⟩,
  ⟨0x330E, 0x330E, .text [0x30AC, 0x30ED, 0x30F3]⟩,
  ⟨0x330F, 0x330F, .text [0x30AC, 0x30F3, 0x30DE]⟩,
  ⟨0x3310, 0x3310, .text [0x30AE, 0x30AC]⟩,
  ⟨0x3311, 0x3311, .text [0x30AE, 0x30CB, 0x30FC]⟩,
  ⟨0x3312, 0x3312, .text [0x30AD, 0x30E5, 0x30EA, 0x30FC]⟩,
  ⟨0x3313, 0x3313, .text [0x30AE, 0x30EB, 0x30C0, 0x30FC]⟩,
  ⟨0x3314, 0x3314, .text [0x30AD, 0x30ED]⟩,
  ⟨0x3315, 0x3315, .text [0x30AD, 0x30ED, 0x30B0, 0x30E9, 0x30E0]⟩,
  ⟨0x3316, 0x3316, .text [0x30AD, 0x30ED, 0x30E1, 0x30FC, 0x30C8, 0x30EB]⟩,
  ⟨0x3317, 0x3317, .text [0x30AD, 0x30ED, 0x30EF, 0x30C3, 0x30C8]⟩,
  ⟨0x3318, 0x3318, .text [0x30B0, 0x30E9, 0x30E0]⟩,
  ⟨0x3319, 0x3319, .text [0x30B0, 0x30E9, 0x30E0, 0x30C8, 0x30F3]⟩,
  ⟨0x331A, 0x331A, .text [0x30AF, 0x30EB, 0x30BC, 0x30A4, 0x30ED]⟩,
  ⟨0x331B, 0x331B, .text [0x30AF, 0x30ED, 0x30FC, 0x30CD]⟩,
  ⟨0x331C, 0x331C, .text [0x30B1, 0x30FC, 0x30B9]⟩,
  ⟨0x331D, 0x331D, .text [0x30B3, 0x30EB, 0x30CA]⟩,
  ⟨0x331E, 0x331E, .text [0x30B3, 0x30FC, 0x30DD]⟩,
  ⟨0x331F, 0x331F, .text [0x30B5, 0x30A4, 0x30AF, 0x30EB]⟩,
  ⟨0x3320, 0x3320, .text [0x30B5, 0x30F3, 0x30C1, 0x30FC, 0x30E0]⟩,
  ⟨0x3321, 0x3321, .text [0x30B7, 0x30EA, 0x30F3, 0x30B0]⟩,
  ⟨0x3322, 0x3322, .text [0x30BB, 0x30F3, 0x30C1]⟩,
  ⟨0x3323, 0x3323, .text [0x30BB, 0x30F3, 0x30C8]⟩,
  ⟨0x3324, 0x3324, .text [0x30C0, 0x30FC, 0x30B9]⟩,
  ⟨0x3325, 0x3325, .text [0x30C7, 0x30B7]⟩, ⟨0x3326, 0x3326, .text [0x30C9, 0x30EB]⟩,
  ⟨0x3327, 0x3327, .text [0x30C8, 0x30F3]⟩, ⟨0x3328, 0x3328, .text [0x30CA, 0x30CE]⟩,
  ⟨0x3329, 0x3329, .text [0x30CE, 0x30C3, 0x30C8]⟩,
  ⟨0x332A, 0x332A, .text [0x30CF, 0x30A4, 0x30C4]⟩,
  ⟨0x332B, 0x332B, .text [0x30D1, 0x30FC, 0x30BB, 0x30F3, 0x30C8]⟩,
  ⟨0x332C, 0x332C, .text [0x30D1, 0x30FC, 0x30C4]⟩,
  ⟨0x332D, 0x332D, .text [0x30D0, 0x30FC, 0x30EC, 0x30EB]⟩,
  ⟨0x332E, 0x332E, .text [0x30D4, 0x30A2, 0x30B9, 0x30C8, 0x30EB]⟩,
  ⟨0x332F, 0x332F, .text [0x30D4, 0x30AF, 0x30EB]⟩,
  ⟨0x3330, 0x3330, .text [0x30D4, 0x30B3]⟩, ⟨0x3331, 0x3331, .text [0x30D3, 0x30EB]⟩,
  ⟨0x3332, 0x3332, .text [0x30D5, 0x30A1, 0x30E9, 0x30C3, 0x30C9]⟩,
  ⟨0x3333, 0x3333, .text [0x30D5, 0x30A3, 0x30FC, 0x30C8]⟩,
  ⟨0x3334, 0x3334, .text [0x30D6, 0x30C3, 0x30B7, 0x30A7, 0x30EB]⟩,
  ⟨0x3335, 0x3335, .text [0x30D5, 0x30E9, 0x30F3]⟩,
  ⟨0x3336, 0x3336, .text [0x30D8, 0x30AF, 0x30BF, 0x30FC, 0x30EB]⟩,
  ⟨0x3337, 0x3337, .text [0x30DA, 0x30BD]⟩,
  ⟨0x3338, 0x3338, .text [0x30DA, 0x30CB, 0x30D2]⟩,
  ⟨0x3339, 0x3339, .text [0x30D8, 0x30EB, 0x30C4]⟩,
  ⟨0x333A, 0x333A, .text [0x30DA, 0x30F3, 0x30B9]⟩,
  ⟨0x333B, 0x333B, .text [0x30DA, 0x30FC, 0x30B8]⟩,
  ⟨0x333C, 0x333C, .text [0x30D9, 0x30FC, 0x30BF]⟩,
  ⟨0x333D, 0x333D, .text [0x30DD, 0x30A4, 0x30F3, 0x30C8]⟩,
  ⟨0x333E, 0x333E, .text [0x30DC, 0x30EB, 0x30C8]⟩,
  ⟨0x333F, 0x333F, .text [0x30DB, 0x30F3]⟩,
  ⟨0x3340, 0x3340, .text [0x30DD, 0x30F3, 0x30C9]⟩,
  ⟨0x3341, 0x3341, .text [0x30DB, 0x30FC, 0x30EB]⟩,
  ⟨0x3342, 0x3342, .text [0x30DB, 0x30FC, 0x30F3]⟩,
  ⟨0x3343, 0x3343, .text [0x30DE, 0x30A4, 0x30AF, 0x30ED]⟩,
  ⟨0x3344, 0x3344, .text [0x30DE, 0x30A4, 0x30EB]⟩,
  ⟨0x3345, 0x3345, .text [0x30DE, 0x30C3, 0x30CF]⟩,
  ⟨0x3346, 0x3346, .text [0x30DE, 0x30EB, 0x30AF]⟩,
  ⟨0x3347, 0x3347, .text [0x30DE, 0x30F3, 0x30B7, 0x30E7, 0x30F3]⟩,
  ⟨0x3348, 0x3348, .text [0x30DF, 0x30AF, 0x30ED, 0x30F3]⟩,
  ⟨0x3349, 0x3349, .text [0x30DF, 0x30EA]⟩,
  ⟨0x334A, 0x334A, .text [0x30DF, 0x30EA, 0x30D0, 0x30FC, 0x30EB]⟩,
  ⟨0x334B, 0x334B, .text [0x30E1, 0x30AC]⟩,
  ⟨0x334C, 0x334C, .text [0x30E1, 0x30AC, 0x30C8, 0x30F3]⟩,
  ⟨0x334D, 0x334D, .text [0x30E1, 0x30FC, 0x30C8, 0x30EB]⟩,
  ⟨0x334E, 0x334E, .text [0x30E4, 0x30FC, 0x30C9]⟩,
  ⟨0x334F, 0x334F, .text [0x30E4, 0x30FC, 0x30EB]⟩,
  ⟨0x3350, 0x3350, .text [0x30E6, 0x30A2, 0x30F3]⟩,
  ⟨0x3351, 0x3351, .text [0x30EA, 0x30C3, 0x30C8, 0x30EB]⟩,
  ⟨0x3352, 0x3352, .text [0x30EA, 0x30E9]⟩,
  ⟨0x3353, 0x3353, .text [0x30EB, 0x30D4, 0x30FC]⟩,
  ⟨0x3354, 0x3354, .text [0x30EB, 0x30FC, 0x30D6, 0x30EB]⟩,
  ⟨0x3355, 0x3355, .text [0x30EC, 0x30E0]⟩,
  ⟨0x3356, 0x3356, .text [0x30EC, 0x30F3, 0x30C8, 0x30B2, 0x30F3]⟩,
  ⟨0x3357, 0x3357, .text [0x30EF, 0x30C3, 0x30C8]⟩, ⟨0x3358, 0x3358, .text [0x30, 0x70B9]⟩,
  ⟨0x3359, 0x3359, .text [0x31, 0x70B9]⟩, ⟨0x335A, 0x335A, .text [0x32, 0x70B9]⟩,
  ⟨0x335B, 0x335B, .text [0x33, 0x70B9]⟩, ⟨0x335C, 0x335C, .text [0x34, 0x70B9]⟩,
  ⟨0x335D, 0x335D, .text [0x35, 0x70B9]⟩, ⟨0x335E, 0x335E, .text [0x36, 0x70B9]⟩,
  ⟨0x335F, 0x335F, .text [0x37, 0x70B9]⟩, ⟨0x3360, 0x3360, .text [0x38, 0x70B9]⟩,
  ⟨0x3361, 0x3361, .text [0x39, 0x70B9]⟩, ⟨0x3362, 0x3362, .text [0x31, 0x30, 0x70B9]⟩,
  ⟨0x3363, 0x3363, .text [0x31, 0x31, 0x70B9]⟩,
  ⟨0x3364, 0x3364, .text [0x31, 0x32, 0x70B9]⟩,
  ⟨0x3365, 0x3365, .text [0x31, 0x33, 0x70B9]⟩,
  ⟨0x3366, 0x3366, .text [0x31, 0x34, 0x70B9]⟩,
  ⟨0x3367, 0x3367, .text [0x31, 0x35, 0x70B9]⟩,
  ⟨0x3368, 0x3368, .text [0x31, 0x36, 0x70B9]⟩,
  ⟨0x3369, 0x3369, .text [0x31, 0x37, 0x70B9]⟩,
  ⟨0x336A, 0x336A, .text [0x31, 0x38, 0x70B9]⟩,
  ⟨0x336B, 0x336B, .text [0x31, 0x39, 0x70B9]⟩,
  ⟨0x336C, 0x336C, .text [0x32, 0x30, 0x70B9]⟩,
  ⟨0x336D, 0x336D, .text [0x32, 0x31, 0x70B9]⟩,
  ⟨0x336E, 0x336E, .text [0x32, 0x32, 0x70B9]⟩,
  ⟨0x336F, 0x336F, .text [0x32, 0x33, 0x70B9]⟩,
  ⟨0x3370, 0x3370, .text [0x32, 0x34, 0x70B9]⟩, ⟨0x3371, 0x3371, .text [0x68, 0x70, 0x61]⟩,
  ⟨0x3372, 0x3372, .text [0x64, 0x61]⟩, ⟨0x3373, 0x3373, .text [0x61, 0x75]⟩,
  ⟨0x3374, 0x3374, .text [0x62, 0x61, 0x72]⟩, ⟨0x3375, 0x3375, .text [0x6F, 0x76]⟩,
  ⟨0x3376, 0x3376, .text [0x70, 0x63]⟩, ⟨0x3377, 0x3377, .text [0x64, 0x6D]⟩,
  ⟨0x3378, 0x3378, .text [0x64, 0x6D, 0x32]⟩, ⟨0x3379, 0x3379, .text [0x64, 0x6D, 0x33]⟩,
  ⟨0x337A, 0x337A, .text [0x69, 0x75]⟩, ⟨0x337B, 0x337B, .text [0x5E73, 0x6210]⟩,
  ⟨0x337C, 0x337C, .text [0x662D, 0x548C]⟩, ⟨0x337D, 0x337D, .text [0x5927, 0x6B63]⟩,
  ⟨0x337E, 0x337E, .text [0x660E, 0x6CBB]⟩,
  ⟨0x337F, 0x337F, .text [0x682A, 0x5F0F, 0x4F1A, 0x793E]⟩,
  ⟨0x3380, 0x3380, .text [0x70, 0x61]⟩, ⟨0x3381, 0x3381, .text [0x6E, 0x61]⟩,
  ⟨0x3382, 0x3382, .text [0x3BC, 0x61]⟩, ⟨0x3383, 0x3383, .text [0x6D, 0x61]⟩,
  ⟨0x3384, 0x3384, .text [0x6B, 0x61]⟩, ⟨0x3385, 0x3385, .text [0x6B, 0x62]⟩,
  ⟨0x3386, 0x3386, .text [0x6D, 0x62]⟩, ⟨0x3387, 0x3387, .text [0x67, 0x62]⟩,
  ⟨0x3388, 0x3388, .text [0x63, 0x61, 0x6C]⟩,
  ⟨0x3389, 0x3389, .text [0x6B, 0x63, 0x61, 0x6C]⟩, ⟨0x338A, 0x338A, .text [0x70, 0x66]⟩,
  ⟨0x338B, 0x338B, .text [0x6E, 0x66]⟩, ⟨0x338C, 0x338C, .text [0x3BC, 0x66]⟩,
  ⟨0x338D, 0x338D, .text [0x3BC, 0x67]⟩, ⟨0x338E, 0x338E, .text [0x6D, 0x67]⟩,
  ⟨0x338F, 0x338F, .text [0x6B, 0x67]⟩, ⟨0x3390, 0x3390, .text [0x68, 0x7A]⟩,
  ⟨0x3391, 0x3391, .text [0x6B, 0x68, 0x7A]⟩, ⟨0x3392, 0x3392, .text [0x6D, 0x68, 0x7A]⟩,
  ⟨0x3393, 0x3393, .text [0x67, 0x68, 0x7A]⟩, ⟨0x3394, 0x3394, .text [0x74, 0x68, 0x7A]⟩,
  ⟨0x3395, 0x3395, .text [0x3BC, 0x6C]⟩, ⟨0x3396, 0x3396, .text [0x6D, 0x6C]⟩,
  ⟨0x3397, 0x3397, .text [0x64, 0x6C]⟩, ⟨0x3398, 0x3398, .text [0x6B, 0x6C]⟩,
  ⟨0x3399, 0x3399, .text [0x66, 0x6D]⟩, ⟨0x339A, 0x339A, .text [0x6E, 0x6D]⟩,
  ⟨0x339B, 0x339B, .text [0x3BC, 0x6D]⟩, ⟨0x339C, 0x339C, .text [0x6D, 0x6D]⟩,
  ⟨0x339D, 0x339D, .text [0x63, 0x6D]⟩, ⟨0x339E, 0x339E, .text [0x6B, 0x6D]⟩,
  ⟨0x339F, 0x339F, .text [0x6D, 0x6D, 0x32]⟩, ⟨0x33A0, 0x33A0, .text [0x63, 0x6D, 0x32]⟩,
  ⟨0x33A1, 0x33A1, .text [0x6D, 0x32]⟩, ⟨0x33A2, 0x33A2, .text [0x6B, 0x6D, 0x32]⟩,
  ⟨0x33A3, 0x33A3, .text [0x6D, 0x6D, 0x33]⟩, ⟨0x33A4, 0x33A4, .text [0x63, 0x6D, 0x33]⟩,
  ⟨0x33A5, 0x33A5, .text [0x6D, 0x33]⟩, ⟨0x33A6, 0x33A6, .text [0x6B, 0x6D, 0x33]⟩,
  ⟨0x33A7, 0x33A7, .text [0x6D, 0x2215, 0x73]⟩,
  ⟨0x33A8, 0x33A8, .text [0x6D, 0x2215, 0x73, 0x32]⟩, ⟨0x33A9, 0x33A9, .text [0x70, 0x61]⟩,
  ⟨0x33AA, 0x33AA, .text [0x6B, 0x70, 0x61]⟩, ⟨0x33AB, 0x33AB, .text [0x6D, 0x70, 0x61]⟩,
  ⟨0x33AC, 0x33AC, .text [0x67, 0x70, 0x61]⟩, ⟨0x33AD, 0x33AD, .text [0x72, 0x61, 0x64]⟩,
  ⟨0x33AE, 0x33AE, .text [0x72, 0x61, 0x64, 0x2215, 0x73]⟩,
  ⟨0x33AF, 0x33AF, .text [0x72, 0x61, 0x64, 0x2215, 0x73, 0x32]⟩,
  ⟨0x33B0, 0x33B0, .text [0x70, 0x73]⟩, ⟨0x33B1, 0x33B1, .text [0x6E, 0x73]⟩,
  ⟨0x33B2, 0x33B2, .text [0x3BC, 0x73]⟩, ⟨0x33B3, 0x33B3, .text [0x6D, 0x73]⟩,
  ⟨0x33B4, 0x33B4, .text [0x70, 0x76]⟩, ⟨0x33B5, 0x33B5, .text [0x6E, 0x76]⟩,
  ⟨0x33B6, 0x33B6, .text [0x3BC, 0x76]⟩, ⟨0x33B7, 0x33B7, .text [0x6D, 0x76]⟩,
  ⟨0x33B8, 0x33B8, .text [0x6B, 0x76]⟩, ⟨0x33B9, 0x33B9, .text [0x6D, 0x76]⟩,
  ⟨0x33BA, 0x33BA, .text [0x70, 0x77]⟩, ⟨0x33BB, 0x33BB, .text [0x6E, 0x77]⟩,
  ⟨0x33BC, 0x33BC, .text [0x3BC, 0x77]⟩, ⟨0x33BD, 0x33BD, .text [0x6D, 0x77]⟩,
  ⟨0x33BE, 0x33BE, .text [0x6B, 0x77]⟩, ⟨0x33BF, 0x33BF, .text [0x6D, 0x77]⟩,
  ⟨0x33C0, 0x33C0, .text [0x6B, 0x3C9]⟩, ⟨0x33C1, 0x33C1, .text [0x6D, 0x3C9]⟩,
  ⟨0x33C2, 0x33C2, .disallowed⟩, ⟨0x33C3, 0x33C3, .text [0x62, 0x71]⟩,
  ⟨0x33C4, 0x33C4, .text [0x63, 0x63]⟩, ⟨0x33C5, 0x33C5, .text [0x63, 0x64]⟩,
  ⟨0x33C6, 0x33C6, .text [0x63, 0x2215, 0x6B, 0x67]⟩, ⟨0x33C7, 0x33C7, .disallowed⟩,
  ⟨0x33C8, 0x33C8, .text [0x64, 0x62]⟩, ⟨0x33C9, 0x33C9, .text [0x67, 0x79]⟩,
  ⟨0x33CA, 0x33CA, .text [0x68, 0x61]⟩, ⟨0x33CB, 0x33CB, .text [0x68, 0x70]⟩,
  ⟨0x33CC, 0x33CC, .text [0x69, 0x6E]⟩, ⟨0x33CD, 0x33CD, .text [0x6B, 0x6B]⟩,
  ⟨0x33CE, 0x33CE, .text [0x6B, 0x6D]⟩, ⟨0x33CF, 0x33CF, .text [0x6B, 0x74]⟩,
  ⟨0x33D0, 0x33D0, .text [0x6C, 0x6D]⟩, ⟨0x33D1, 0x33D1, .text [0x6C, 0x6E]⟩,
  ⟨0x33D2, 0x33D2, .text [0x6C, 0x6F, 0x67]⟩, ⟨0x33D3, 0x33D3, .text [0x6C, 0x78]⟩,
  ⟨0x33D4, 0x33D4, .text [0x6D, 0x62]⟩, ⟨0x33D5, 0x33D5, .text [0x6D, 0x69, 0x6C]⟩,
  ⟨0x33D6, 0x33D6, .text [0x6D, 0x6F, 0x6C]⟩, ⟨0x33D7, 0x33D7, .text [0x70, 0x68]⟩,
  ⟨0x33D8, 0x33D8, .disallowed⟩, ⟨0x33D9, 0x33D9, .text [0x70, 0x70, 0x6D]⟩,
  ⟨0x33DA, 0x33DA, .text [0x70, 0x72]⟩, ⟨0x33DB, 0x33DB, .text [0x73, 0x72]⟩,
  ⟨0x33DC, 0x33DC, .text [0x73, 0x76]⟩, ⟨0x33DD, 0x33DD, .text [0x77, 0x62]⟩,
  ⟨0x33DE, 0x33DE, .text [0x76, 0x2215, 0x6D]⟩,
  ⟨0x33DF, 0x33DF, .text [0x61, 0x2215, 0x6D]⟩, ⟨0x33E0, 0x33E0, .text [0x31, 0x65E5]⟩,
  ⟨0x33E1, 0x33E1, .text [0x32, 0x65E5]⟩, ⟨0x33E2, 0x33E2, .text [0x33, 0x65E5]⟩,
  ⟨0x33E3, 0x33E3, .text [0x34, 0x65E5]⟩, ⟨0x33E4, 0x33E4, .text [0x35, 0x65E5]⟩,
  ⟨0x33E5, 0x33E5, .text [0x36, 0x65E5]⟩, ⟨0x33E6, 0x33E6, .text [0x37, 0x65E5]⟩,
  ⟨0x33E7, 0x33E7, .text [0x38, 0x65E5]⟩, ⟨0x33E8, 0x33E8, .text [0x39, 0x65E5]⟩,
  ⟨0x33E9, 0x33E9, .text [0x31, 0x30, 0x65E5]⟩,
  ⟨0x33EA, 0x33EA, .text [0x31, 0x31, 0x65E5]⟩,
  ⟨0x33EB, 0x33EB, .text [0x31, 0x32, 0x65E5]⟩,
  ⟨0x33EC, 0x33EC, .text [0x31, 0x33, 0x65E5]⟩,
  ⟨0x33ED, 0x33ED, .text [0x31, 0x34, 0x65E5]⟩,
  ⟨0x33EE, 0x33EE, .text [0x31, 0x35, 0x65E5]⟩,
  ⟨0x33EF, 0x33EF, .text [0x31, 0x36, 0x65E5]⟩,
  ⟨0x33F0, 0x33F0, .text [0x31, 0x37, 0x65E5]⟩,
  ⟨0x33F1, 0x33F1, .text [0x31, 0x38, 0x65E5]⟩,
  ⟨0x33F2, 0x33F2, .text [0x31, 0x39, 0x65E5]⟩,
  ⟨0x33F3, 0x33F3, .text [0x32, 0x30, 0x65E5]⟩,
  ⟨0x33F4, 0x33F4, .text [0x32, 0x31, 0x65E5]⟩,
  ⟨0x33F5, 0x33F5, .text [0x32, 0x32, 0x65E5]⟩,
  ⟨0x33F6, 0x33F6, .text [0x32, 0x33, 0x65E5]⟩,
  ⟨0x33F7, 0x33F7, .text [0x32, 0x34, 0x65E5]⟩,
  ⟨0x33F8, 0x33F8, .text [0x32, 0x35, 0x65E5]⟩,
  ⟨0x33F9, 0x33F9, .text [0x32, 0x36, 0x65E5]⟩,
  ⟨0x33FA, 0x33FA, .text [0x32, 0x37, 0x65E5]⟩,
  ⟨0x33FB, 0x33FB, .text [0x32, 0x38, 0x65E5]⟩,
  ⟨0x33FC, 0x33FC, .text [0x32, 0x39, 0x65E5]⟩,
  ⟨0x33FD, 0x33FD, .text [0x33, 0x30, 0x65E5]⟩,
  ⟨0x33FE, 0x33FE, .text [0x33, 0x31, 0x65E5]⟩]

/-- The runs from U+33FF to U+FA93. -/
def runsFrom33FF : List Run := [
  ⟨0x33FF, 0x33FF, .text [0x67, 0x61, 0x6C]⟩, ⟨0x3400, 0xA48C, .valid⟩,
  ⟨0xA48D, 0xA48F, .disallowed⟩, ⟨0xA490, 0xA4C6, .valid⟩, ⟨0xA4C7, 0xA4CF, .disallowed⟩,
  ⟨0xA4D0, 0xA62B, .valid⟩, ⟨0xA62C, 0xA63F, .disallowed⟩, ⟨0xA640, 0xA66C, .shift 1 2⟩,
  ⟨0xA66D, 0xA67F, .valid⟩, ⟨0xA680, 0xA69A, .shift 1 2⟩, ⟨0xA69B, 0xA69B, .valid⟩,
  ⟨0xA69C, 0xA69C, .shift (-41554) 1⟩, ⟨0xA69D, 0xA69D, .shift (-41553) 1⟩,
  ⟨0xA69E, 0xA6F7, .valid⟩, ⟨0xA6F8, 0xA6FF, .disallowed⟩, ⟨0xA700, 0xA721, .valid⟩,
  ⟨0xA722, 0xA72E, .shift 1 2⟩, ⟨0xA72F, 0xA731, .valid⟩, ⟨0xA732, 0xA76E, .shift 1 2⟩,
  ⟨0xA76F, 0xA76F, .valid⟩, ⟨0xA770, 0xA770, .shift (-1) 1⟩, ⟨0xA771, 0xA778, .valid⟩,
  ⟨0xA779, 0xA77B, .shift 1 2⟩, ⟨0xA77C, 0xA77C, .valid⟩,
  ⟨0xA77D, 0xA77D, .shift (-35332) 1⟩, ⟨0xA77E, 0xA786, .shift 1 2⟩,
  ⟨0xA787, 0xA78A, .valid⟩, ⟨0xA78B, 0xA78B, .shift 1 1⟩, ⟨0xA78C, 0xA78C, .valid⟩,
  ⟨0xA78D, 0xA78D, .shift (-42280) 1⟩, ⟨0xA78E, 0xA78F, .valid⟩,
  ⟨0xA790, 0xA792, .shift 1 2⟩, ⟨0xA793, 0xA795, .valid⟩, ⟨0xA796, 0xA7A8, .shift 1 2⟩,
  ⟨0xA7A9, 0xA7A9, .valid⟩, ⟨0xA7AA, 0xA7AA, .shift (-42308) 1⟩,
  ⟨0xA7AB, 0xA7AB, .shift (-42319) 1⟩, ⟨0xA7AC, 0xA7AC, .shift (-42315) 1⟩,
  ⟨0xA7AD, 0xA7AD, .shift (-42305) 1⟩, ⟨0xA7AE, 0xA7AE, .shift (-42308) 1⟩,
  ⟨0xA7AF, 0xA7AF, .valid⟩, ⟨0xA7B0, 0xA7B0, .shift (-42258) 1⟩,
  ⟨0xA7B1, 0xA7B1, .shift (-42282) 1⟩, ⟨0xA7B2, 0xA7B2, .shift (-42261) 1⟩,
  ⟨0xA7B3, 0xA7B3, .shift 928 1⟩, ⟨0xA7B4, 0xA7C2, .shift 1 2⟩, ⟨0xA7C3, 0xA7C3, .valid⟩,
  ⟨0xA7C4, 0xA7C4, .shift (-48) 1⟩, ⟨0xA7C5, 0xA7C5, .shift (-42307) 1⟩,
  ⟨0xA7C6, 0xA7C6, .shift (-35384) 1⟩, ⟨0xA7C7, 0xA7C9, .shift 1 2⟩,
  ⟨0xA7CA, 0xA7CA, .valid⟩, ⟨0xA7CB, 0xA7CB, .shift (-42343) 1⟩,
  ⟨0xA7CC, 0xA7DA, .shift 1 2⟩, ⟨0xA7DB, 0xA7DB, .valid⟩,
  ⟨0xA7DC, 0xA7DC, .shift (-42561) 1⟩, ⟨0xA7DD, 0xA7F0, .disallowed⟩,
  ⟨0xA7F1, 0xA7F1, .shift (-42878) 1⟩, ⟨0xA7F2, 0xA7F2, .shift (-42895) 1⟩,
  ⟨0xA7F3, 0xA7F3, .shift (-42893) 1⟩, ⟨0xA7F4, 0xA7F4, .shift (-42883) 1⟩,
  ⟨0xA7F5, 0xA7F5, .shift 1 1⟩, ⟨0xA7F6, 0xA7F7, .valid⟩,
  ⟨0xA7F8, 0xA7F8, .shift (-42705) 1⟩, ⟨0xA7F9, 0xA7F9, .shift (-42662) 1⟩,
  ⟨0xA7FA, 0xA82C, .valid⟩, ⟨0xA82D, 0xA82F, .disallowed⟩, ⟨0xA830, 0xA839, .valid⟩,
  ⟨0xA83A, 0xA83F, .disallowed⟩, ⟨0xA840, 0xA877, .valid⟩, ⟨0xA878, 0xA87F, .disallowed⟩,
  ⟨0xA880, 0xA8C5, .valid⟩, ⟨0xA8C6, 0xA8CD, .disallowed⟩, ⟨0xA8CE, 0xA8D9, .valid⟩,
  ⟨0xA8DA, 0xA8DF, .disallowed⟩, ⟨0xA8E0, 0xA953, .valid⟩, ⟨0xA954, 0xA95E, .disallowed⟩,
  ⟨0xA95F, 0xA97C, .valid⟩, ⟨0xA97D, 0xA97F, .disallowed⟩, ⟨0xA980, 0xA9CD, .valid⟩,
  ⟨0xA9CE, 0xA9CE, .disallowed⟩, ⟨0xA9CF, 0xA9D9, .valid⟩, ⟨0xA9DA, 0xA9DD, .disallowed⟩,
  ⟨0xA9DE, 0xA9FE, .valid⟩, ⟨0xA9FF, 0xA9FF, .disallowed⟩, ⟨0xAA00, 0xAA36, .valid⟩,
  ⟨0xAA37, 0xAA3F, .disallowed⟩, ⟨0xAA40, 0xAA4D, .valid⟩, ⟨0xAA4E, 0xAA4F, .disallowed⟩,
  ⟨0xAA50, 0xAA59, .valid⟩, ⟨0xAA5A, 0xAA5B, .disallowed⟩, ⟨0xAA5C, 0xAAC2, .valid⟩,
  ⟨0xAAC3, 0xAADA, .disallowed⟩, ⟨0xAADB, 0xAAF6, .valid⟩, ⟨0xAAF7, 0xAB00, .disallowed⟩,
  ⟨0xAB01, 0xAB06, .valid⟩, ⟨0xAB07, 0xAB08, .disallowed⟩, ⟨0xAB09, 0xAB0E, .valid⟩,
  ⟨0xAB0F, 0xAB10, .disallowed⟩, ⟨0xAB11, 0xAB16, .valid⟩, ⟨0xAB17, 0xAB1F, .disallowed⟩,
  ⟨0xAB20, 0xAB26, .valid⟩, ⟨0xAB27, 0xAB27, .disallowed⟩, ⟨0xAB28, 0xAB2E, .valid⟩,
  ⟨0xAB2F, 0xAB2F, .disallowed⟩, ⟨0xAB30, 0xAB5B, .valid⟩,
  ⟨0xAB5C, 0xAB5C, .shift (-1077) 1⟩, ⟨0xAB5D, 0xAB5D, .shift (-38) 1⟩,
  ⟨0xAB5E, 0xAB5E, .shift (-43251) 1⟩, ⟨0xAB5F, 0xAB5F, .shift (-13) 1⟩,
  ⟨0xAB60, 0xAB68, .valid⟩, ⟨0xAB69, 0xAB69, .shift (-43228) 1⟩, ⟨0xAB6A, 0xAB6B, .valid⟩,
  ⟨0xAB6C, 0xAB6F, .disallowed⟩, ⟨0xAB70, 0xABBF, .shift (-38864) 1⟩,
  ⟨0xABC0, 0xABED, .valid⟩, ⟨0xABEE, 0xABEF, .disallowed⟩, ⟨0xABF0, 0xABF9, .valid⟩,
  ⟨0xABFA, 0xABFF, .disallowed⟩, ⟨0xAC00, 0xD7A3, .valid⟩, ⟨0xD7A4, 0xD7AF, .disallowed⟩,
  ⟨0xD7B0, 0xD7C6, .valid⟩, ⟨0xD7C7, 0xD7CA, .disallowed⟩, ⟨0xD7CB, 0xD7FB, .valid⟩,
  ⟨0xD7FC, 0xF8FF, .disallowed⟩, ⟨0xF900, 0xF900, .shift (-27832) 1⟩,
  ⟨0xF901, 0xF901, .shift (-37389) 1⟩, ⟨0xF902, 0xF902, .shift (-27192) 1⟩,
  ⟨0xF903, 0xF903, .shift (-27707) 1⟩, ⟨0xF904, 0xF904, .shift (-35379) 1⟩,
  ⟨0xF905, 0xF905, .shift (-43731) 1⟩, ⟨0xF906, 0xF906, .shift (-42273) 1⟩,
  ⟨0xF907, 0xF908, .text [0x9F9C]⟩, ⟨0xF909, 0xF909, .shift (-40888) 1⟩,
  ⟨0xF90A, 0xF90A, .shift (-26425) 1⟩, ⟨0xF90B, 0xF90B, .shift (-41860) 1⟩,
  ⟨0xF90C, 0xF90C, .shift (-40900) 1⟩, ⟨0xF90D, 0xF90D, .shift (-38679) 1⟩,
  ⟨0xF90E, 0xF90E, .shift (-33445) 1⟩, ⟨0xF90F, 0xF90F, .shift (-31114) 1⟩,
  ⟨0xF910, 0xF910, .shift (-29393) 1⟩, ⟨0xF911, 0xF911, .shift (-29015) 1⟩,
  ⟨0xF912, 0xF912, .shift (-28698) 1⟩, ⟨0xF913, 0xF913, .shift (-26756) 1⟩,
  ⟨0xF914, 0xF914, .shift (-36626) 1⟩, ⟨0xF915, 0xF915, .shift (-35834) 1⟩,
  ⟨0xF916, 0xF916, .shift (-34877) 1⟩, ⟨0xF917, 0xF917, .shift (-34105) 1⟩,
  ⟨0xF918, 0xF918, .shift (-29915) 1⟩, ⟨0xF919, 0xF919, .shift (-26543) 1⟩,
  ⟨0xF91A, 0xF91A, .shift (-24361) 1⟩, ⟨0xF91B, 0xF91B, .shift (-43673) 1⟩,
  ⟨0xF91C, 0xF91C, .shift (-42407) 1⟩, ⟨0xF91D, 0xF91D, .shift (-36377) 1⟩,
  ⟨0xF91E, 0xF91E, .shift (-34563) 1⟩, ⟨0xF91F, 0xF91F, .shift (-29426) 1⟩,
  ⟨0xF920, 0xF920, .shift (-23298) 1⟩, ⟨0xF921, 0xF921, .shift (-39889) 1⟩,
  ⟨0xF922, 0xF922, .shift (-35127) 1⟩, ⟨0xF923, 0xF923, .shift (-29526) 1⟩,
  ⟨0xF924, 0xF924, .shift (-28608) 1⟩, ⟨0xF925, 0xF925, .shift (-38492) 1⟩,
  ⟨0xF926, 0xF926, .shift (-30542) 1⟩, ⟨0xF927, 0xF927, .shift (-28936) 1⟩,
  ⟨0xF928, 0xF928, .shift (-39518) 1⟩, ⟨0xF929, 0xF929, .shift (-37394) 1⟩,
  ⟨0xF92A, 0xF92A, .shift (-35776) 1⟩, ⟨0xF92B, 0xF92B, .shift (-34351) 1⟩,
  ⟨0xF92C, 0xF92C, .shift (-26718) 1⟩, ⟨0xF92D, 0xF92D, .shift (-43431) 1⟩,
  ⟨0xF92E, 0xF92E, .shift (-42871) 1⟩, ⟨0xF92F, 0xF92F, .shift (-42577) 1⟩,
  ⟨0xF930, 0xF930, .shift (-37996) 1⟩, ⟨0xF931, 0xF931, .shift (-36446) 1⟩,
  ⟨0xF932, 0xF932, .shift (-34594) 1⟩, ⟨0xF933, 0xF933, .shift (-33356) 1⟩,
  ⟨0xF934, 0xF934, .shift (-31027) 1⟩, ⟨0xF935, 0xF935, .shift (-29487) 1⟩,
  ⟨0xF936, 0xF936, .shift (-29402) 1⟩, ⟨0xF937, 0xF937, .shift (-27464) 1⟩,
  ⟨0xF938, 0xF938, .shift (-25094) 1⟩, ⟨0xF939, 0xF939, .shift (-24010) 1⟩,
  ⟨0xF93A, 0xF93A, .shift (-23360) 1⟩, ⟨0xF93B, 0xF93B, .shift (-32943) 1⟩,
  ⟨0xF93C, 0xF93C, .shift (-32701) 1⟩, ⟨0xF93D, 0xF93D, .shift (-31645) 1⟩,
  ⟨0xF93E, 0xF93E, .shift (-30069) 1⟩, ⟨0xF93F, 0xF93F, .shift (-26171) 1⟩,
  ⟨0xF940, 0xF940, .shift (-23233) 1⟩, ⟨0xF941, 0xF941, .shift (-28267) 1⟩,
  ⟨0xF942, 0xF942, .shift (-41059) 1⟩, ⟨0xF943, 0xF943, .shift (-39487) 1⟩,
  ⟨0xF944, 0xF944, .shift (-31972) 1⟩, ⟨0xF945, 0xF945, .shift (-30919) 1⟩,
  ⟨0xF946, 0xF946, .shift (-34532) 1⟩, ⟨0xF947, 0xF947, .shift (-32893) 1⟩,
  ⟨0xF948, 0xF948, .shift (-27782) 1⟩, ⟨0xF949, 0xF949, .shift (-25170) 1⟩,
  ⟨0xF94A, 0xF94A, .shift (-41074) 1⟩, ⟨0xF94B, 0xF94B, .shift (-40169) 1⟩,
  ⟨0xF94C, 0xF94C, .shift (-36665) 1⟩, ⟨0xF94D, 0xF94D, .shift (-35699) 1⟩,
  ⟨0xF94E, 0xF94E, .shift (-35391) 1⟩, ⟨0xF94F, 0xF94F, .shift (-31776) 1⟩,
  ⟨0xF950, 0xF950, .shift (-31513) 1⟩, ⟨0xF951, 0xF951, .shift (-25350) 1⟩,
  ⟨0xF952, 0xF952, .shift (-42624) 1⟩, ⟨0xF953, 0xF953, .shift (-30920) 1⟩,
  ⟨0xF954, 0xF954, .shift (-42872) 1⟩, ⟨0xF955, 0xF955, .shift (-42889) 1⟩,
  ⟨0xF956, 0xF956, .shift (-32570) 1⟩, ⟨0xF957, 0xF957, .shift (-31641) 1⟩,
  ⟨0xF958, 0xF958, .shift (-30055) 1⟩, ⟨0xF959, 0xF959, .shift (-25316) 1⟩,
  ⟨0xF95A, 0xF95A, .shift (-28122) 1⟩, ⟨0xF95B, 0xF95B, .shift (-38540) 1⟩,
  ⟨0xF95C, 0xF95C, .shift (-36698) 1⟩, ⟨0xF95D, 0xF95D, .shift (-28255) 1⟩,
  ⟨0xF95E, 0xF95E, .shift (-43813) 1⟩, ⟨0xF95F, 0xF95F, .shift (-40312) 1⟩,
  ⟨0xF960, 0xF960, .shift (-39246) 1⟩, ⟨0xF961, 0xF961, .shift (-34266) 1⟩,
  ⟨0xF962, 0xF962, .shift (-33778) 1⟩, ⟨0xF963, 0xF963, .shift (-42572) 1⟩,
  ⟨0xF964, 0xF964, .shift (-32873) 1⟩, ⟨0xF965, 0xF965, .shift (-43430) 1⟩,
  ⟨0xF966, 0xF966, .shift (-39357) 1⟩, ⟨0xF967, 0xF967, .shift (-43866) 1⟩,
  ⟨0xF968, 0xF968, .shift (-35996) 1⟩, ⟨0xF969, 0xF969, .shift (-37873) 1⟩,
  ⟨0xF96A, 0xF96A, .shift (-31816) 1⟩, ⟨0xF96B, 0xF96B, .shift (-42408) 1⟩,
  ⟨0xF96C, 0xF96C, .shift (-41230) 1⟩, ⟨0xF96D, 0xF96D, .shift (-33388) 1⟩,
  ⟨0xF96E, 0xF96E, .shift (-29989) 1⟩, ⟨0xF96F, 0xF96F, .shift (-28357) 1⟩,
  ⟨0xF970, 0xF970, .shift (-36278) 1⟩, ⟨0xF971, 0xF971, .shift (-27073) 1⟩,
  ⟨0xF972, 0xF972, .shift (-36074) 1⟩, ⟨0xF973, 0xF973, .shift (-38517) 1⟩,
  ⟨0xF974, 0xF974, .shift (-30351) 1⟩, ⟨0xF975, 0xF975, .shift (-38357) 1⟩,
  ⟨0xF976, 0xF976, .shift (-33809) 1⟩, ⟨0xF977, 0xF977, .shift (-43721) 1⟩,
  ⟨0xF978, 0xF978, .shift (-43023) 1⟩, ⟨0xF979, 0xF979, .shift (-42928) 1⟩,
  ⟨0xF97A, 0xF97A, .shift (-37113) 1⟩, ⟨0xF97B, 0xF97B, .shift (-31892) 1⟩,
  ⟨0xF97C, 0xF97C, .shift (-30477) 1⟩, ⟨0xF97D, 0xF97D, .shift (-28331) 1⟩,
  ⟨0xF97E, 0xF97E, .shift (-26543) 1⟩, ⟨0xF97F, 0xF97F, .shift (-42634) 1⟩,
  ⟨0xF980, 0xF980, .shift (-42302) 1⟩, ⟨0xF981, 0xF981, .shift (-40974) 1⟩,
  ⟨0xF982, 0xF982, .shift (-39574) 1⟩, ⟨0xF983, 0xF983, .shift (-37822) 1⟩,
  ⟨0xF984, 0xF984, .shift (-35206) 1⟩, ⟨0xF985, 0xF985, .shift (-32859) 1⟩,
  ⟨0xF986, 0xF986, .shift (-25561) 1⟩, ⟨0xF987, 0xF987, .shift (-24349) 1⟩,
  ⟨0xF988, 0xF988, .shift (-23281) 1⟩, ⟨0xF989, 0xF989, .shift (-23227) 1⟩,
  ⟨0xF98A, 0xF98A, .shift (-42735) 1⟩, ⟨0xF98B, 0xF98B, .shift (-37573) 1⟩,
  ⟨0xF98C, 0xF98C, .shift (-36373) 1⟩, ⟨0xF98D, 0xF98D, .shift (-27179) 1⟩,
  ⟨0xF98E, 0xF98E, .shift (-39706) 1⟩, ⟨0xF98F, 0xF98F, .shift (-38911) 1⟩,
  ⟨0xF990, 0xF990, .shift (-38800) 1⟩, ⟨0xF991, 0xF991, .shift (-38135) 1⟩,
  ⟨0xF992, 0xF992, .shift (-35439) 1⟩, ⟨0xF993, 0xF993, .shift (-34890) 1⟩,
  ⟨0xF994, 0xF994, .shift (-34059) 1⟩, ⟨0xF995, 0xF995, .shift (-32715) 1⟩,
  ⟨0xF996, 0xF996, .shift (-31650) 1⟩, ⟨0xF997, 0xF997, .shift (-31016) 1⟩,
  ⟨0xF998, 0xF998, .shift (-27250) 1⟩, ⟨0xF999, 0xF999, .shift (-29867) 1⟩,
  ⟨0xF99A, 0xF99A, .shift (-26999) 1⟩, ⟨0xF99B, 0xF99B, .shift (-26193) 1⟩,
  ⟨0xF99C, 0xF99C, .shift (-42885) 1⟩, ⟨0xF99D, 0xF99D, .shift (-42746) 1⟩,
  ⟨0xF99E, 0xF99E, .shift (-42209) 1⟩, ⟨0xF99F, 0xF99F, .shift (-35031) 1⟩,
  ⟨0xF9A0, 0xF9A0, .shift (-28894) 1⟩, ⟨0xF9A1, 0xF9A1, .shift (-28407) 1⟩,
  ⟨0xF9A2, 0xF9A2, .shift (-39641) 1⟩, ⟨0xF9A3, 0xF9A3, .shift (-39342) 1⟩,
  ⟨0xF9A4, 0xF9A4, .shift (-38441) 1⟩, ⟨0xF9A5, 0xF9A5, .shift (-36343) 1⟩,
  ⟨0xF9A6, 0xF9A6, .shift (-32104) 1⟩, ⟨0xF9A7, 0xF9A7, .shift (-34354) 1⟩,
  ⟨0xF9A8, 0xF9A8, .shift (-43716) 1⟩, ⟨0xF9A9, 0xF9A9, .shift (-41648) 1⟩,
  ⟨0xF9AA, 0xF9AA, .shift (-40387) 1⟩, ⟨0xF9AB, 0xF9AB, .shift (-39921) 1⟩,
  ⟨0xF9AC, 0xF9AC, .shift (-39312) 1⟩, ⟨0xF9AD, 0xF9AD, .shift (-34299) 1⟩,
  ⟨0xF9AE, 0xF9AE, .shift (-34117) 1⟩, ⟨0xF9AF, 0xF9AF, .shift (-31253) 1⟩,
  ⟨0xF9B0, 0xF9B0, .shift (-31082) 1⟩, ⟨0xF9B1, 0xF9B1, .shift (-26493) 1⟩,
  ⟨0xF9B2, 0xF9B2, .shift (-25276) 1⟩, ⟨0xF9B3, 0xF9B3, .shift (-25195) 1⟩,
  ⟨0xF9B4, 0xF9B4, .shift (-24988) 1⟩, ⟨0xF9B5, 0xF9B5, .shift (-43562) 1⟩,
  ⟨0xF9B6, 0xF9B6, .shift (-32776) 1⟩, ⟨0xF9B7, 0xF9B7, .shift (-26627) 1⟩,
  ⟨0xF9B8, 0xF9B8, .shift (-25344) 1⟩, ⟨0xF9B9, 0xF9B9, .shift (-39128) 1⟩,
  ⟨0xF9BA, 0xF9BA, .shift (-43828) 1⟩, ⟨0xF9BB, 0xF9BB, .shift (-43233) 1⟩,
  ⟨0xF9BC, 0xF9BC, .shift (-40398) 1⟩, ⟨0xF9BD, 0xF9BD, .shift (-40318) 1⟩,
  ⟨0xF9BE, 0xF9BE, .shift (-37925) 1⟩, ⟨0xF9BF, 0xF9BF, .shift (-36797) 1⟩,
  ⟨0xF9C0, 0xF9C0, .shift (-34802) 1⟩, ⟨0xF9C1, 0xF9C1, .shift (-33663) 1⟩,
  ⟨0xF9C2, 0xF9C2, .shift (-29894) 1⟩, ⟨0xF9C3, 0xF9C3, .shift (-26951) 1⟩,
  ⟨0xF9C4, 0xF9C4, .shift (-23095) 1⟩, ⟨0xF9C5, 0xF9C5, .shift (-37693) 1⟩,
  ⟨0xF9C6, 0xF9C6, .shift (-25496) 1⟩, ⟨0xF9C7, 0xF9C7, .shift (-42814) 1⟩,
  ⟨0xF9C8, 0xF9C8, .shift (-37453) 1⟩, ⟨0xF9C9, 0xF9C9, .shift (-37334) 1⟩,
  ⟨0xF9CA, 0xF9CA, .shift (-35977) 1⟩, ⟨0xF9CB, 0xF9CB, .shift (-35631) 1⟩,
  ⟨0xF9CC, 0xF9CC, .shift (-34243) 1⟩, ⟨0xF9CD, 0xF9CD, .shift (-33908) 1⟩,
  ⟨0xF9CE, 0xF9CE, .shift (-33123) 1⟩, ⟨0xF9CF, 0xF9CF, .shift (-31935) 1⟩,
  ⟨0xF9D0, 0xF9D0, .shift (-24946) 1⟩, ⟨0xF9D1, 0xF9D1, .shift (-43108) 1⟩,
  ⟨0xF9D2, 0xF9D2, .shift (-38820) 1⟩, ⟨0xF9D3, 0xF9D3, .shift (-25435) 1⟩,
  ⟨0xF9D4, 0xF9D4, .shift (-43433) 1⟩, ⟨0xF9D5, 0xF9D5, .shift (-40124) 1⟩,
  ⟨0xF9D6, 0xF9D6, .shift (-35820) 1⟩, ⟨0xF9D7, 0xF9D7, .shift (-27309) 1⟩,
  ⟨0xF9D8, 0xF9D8, .shift (-39501) 1⟩, ⟨0xF9D9, 0xF9D9, .shift (-39061) 1⟩,
  ⟨0xF9DA, 0xF9DA, .shift (-37315) 1⟩, ⟨0xF9DB, 0xF9DB, .shift (-34388) 1⟩,
  ⟨0xF9DC, 0xF9DC, .shift (-25430) 1⟩, ⟨0xF9DD, 0xF9DD, .shift (-42932) 1⟩,
  ⟨0xF9DE, 0xF9DE, .shift (-42447) 1⟩, ⟨0xF9DF, 0xF9DF, .shift (-40314) 1⟩,
  ⟨0xF9E0, 0xF9E0, .shift (-37837) 1⟩, ⟨0xF9E1, 0xF9E1, .shift (-37523) 1⟩,
  ⟨0xF9E2, 0xF9E2, .shift (-37178) 1⟩, ⟨0xF9E3, 0xF9E3, .shift (-36094) 1⟩,
  ⟨0xF9E4, 0xF9E4, .shift (-34270) 1⟩, ⟨0xF9E5, 0xF9E5, .shift (-33795) 1⟩,
  ⟨0xF9E6, 0xF9E6, .shift (-31341) 1⟩, ⟨0xF9E7, 0xF9E7, .shift (-28952) 1⟩,
  ⟨0xF9E8, 0xF9E8, .shift (-28935) 1⟩, ⟨0xF9E9, 0xF9E9, .shift (-26653) 1⟩,
  ⟨0xF9EA, 0xF9EA, .shift (-25352) 1⟩, ⟨0xF9EB, 0xF9EB, .shift (-42668) 1⟩,
  ⟨0xF9EC, 0xF9EC, .shift (-35634) 1⟩, ⟨0xF9ED, 0xF9ED, .shift (-42448) 1⟩,
  ⟨0xF9EE, 0xF9EE, .shift (-34846) 1⟩, ⟨0xF9EF, 0xF9EF, .shift (-34135) 1⟩,
  ⟨0xF9F0, 0xF9F0, .shift (-29686) 1⟩, ⟨0xF9F1, 0xF9F1, .shift (-25422) 1⟩,
  ⟨0xF9F2, 0xF9F2, .shift (-23963) 1⟩, ⟨0xF9F3, 0xF9F3, .shift (-23380) 1⟩,
  ⟨0xF9F4, 0xF9F4, .shift (-37469) 1⟩, ⟨0xF9F5, 0xF9F5, .shift (-35882) 1⟩,
  ⟨0xF9F6, 0xF9F6, .shift (-30734) 1⟩, ⟨0xF9F7, 0xF9F7, .shift (-32556) 1⟩,
  ⟨0xF9F8, 0xF9F8, .shift (-32472) 1⟩, ⟨0xF9F9, 0xF9F9, .shift (-32103) 1⟩,
  ⟨0xF9FA, 0xF9FA, .shift (-34618) 1⟩, ⟨0xF9FB, 0xF9FB, .shift (-35170) 1⟩,
  ⟨0xF9FC, 0xF9FC, .shift (-28324) 1⟩, ⟨0xF9FD, 0xF9FD, .shift (-43837) 1⟩,
  ⟨0xF9FE, 0xF9FE, .shift (-30408) 1⟩, ⟨0xF9FF, 0xF9FF, .shift (-42949) 1⟩,
  ⟨0xFA00, 0xFA00, .shift (-43001) 1⟩, ⟨0xFA01, 0xFA01, .shift (-39771) 1⟩,
  ⟨0xFA02, 0xFA02, .shift (-38703) 1⟩, ⟨0xFA03, 0xFA03, .shift (-32045) 1⟩,
  ⟨0xFA04, 0xFA04, .shift (-40575) 1⟩, ⟨0xFA05, 0xFA05, .shift (-36071) 1⟩,
  ⟨0xFA06, 0xFA06, .shift (-37714) 1⟩, ⟨0xFA07, 0xFA07, .shift (-27340) 1⟩,
  ⟨0xFA08, 0xFA08, .shift (-29116) 1⟩, ⟨0xFA09, 0xFA09, .shift (-25532) 1⟩,
  ⟨0xFA0A, 0xFA0A, .shift (-28799) 1⟩, ⟨0xFA0B, 0xFA0B, .shift (-39736) 1⟩,
  ⟨0xFA0C, 0xFA0C, .shift (-43212) 1⟩, ⟨0xFA0D, 0xFA0D, .shift (-42061) 1⟩,
  ⟨0xFA0E, 0xFA0F, .valid⟩, ⟨0xFA10, 0xFA10, .shift (-41398) 1⟩, ⟨0xFA11, 0xFA11, .valid⟩,
  ⟨0xFA12, 0xFA12, .shift (-37790) 1⟩, ⟨0xFA13, 0xFA14, .valid⟩,
  ⟨0xFA15, 0xFA15, .shift (-43063) 1⟩, ⟨0xFA16, 0xFA16, .shift (-34540) 1⟩,
  ⟨0xFA17, 0xFA17, .shift (-33613) 1⟩, ⟨0xFA18, 0xFA18, .shift (-32988) 1⟩,
  ⟨0xFA19, 0xFA19, .shift (-32955) 1⟩, ⟨0xFA1A, 0xFA1A, .shift (-32949) 1⟩,
  ⟨0xFA1B, 0xFA1B, .shift (-32908) 1⟩, ⟨0xFA1C, 0xFA1C, .shift (-25286) 1⟩,
  ⟨0xFA1D, 0xFA1D, .shift (-32095) 1⟩, ⟨0xFA1E, 0xFA1E, .shift (-31329) 1⟩,
  ⟨0xFA1F, 0xFA1F, .valid⟩, ⟨0xFA20, 0xFA20, .shift (-29710) 1⟩, ⟨0xFA21, 0xFA21, .valid⟩,
  ⟨0xFA22, 0xFA22, .shift (-28458) 1⟩, ⟨0xFA23, 0xFA24, .valid⟩,
  ⟨0xFA25, 0xFA25, .shift (-27117) 1⟩, ⟨0xFA26, 0xFA26, .shift (-26921) 1⟩,
  ⟨0xFA27, 0xFA29, .valid⟩, ⟨0xFA2A, 0xFA2A, .shift (-24891) 1⟩,
  ⟨0xFA2B, 0xFA2B, .shift (-24879) 1⟩, ⟨0xFA2C, 0xFA2C, .shift (-24836) 1⟩,
  ⟨0xFA2D, 0xFA2D, .shift (-23673) 1⟩, ⟨0xFA2E, 0xFA2E, .shift (-26960) 1⟩,
  ⟨0xFA2F, 0xFA2F, .shift (-25464) 1⟩, ⟨0xFA30, 0xFA30, .shift (-43650) 1⟩,
  ⟨0xFA31, 0xFA31, .shift (-43338) 1⟩, ⟨0xFA32, 0xFA32, .shift (-43237) 1⟩,
  ⟨0xFA33, 0xFA33, .shift (-42858) 1⟩, ⟨0xFA34, 0xFA34, .shift (-42832) 1⟩,
  ⟨0xFA35, 0xFA35, .shift (-42724) 1⟩, ⟨0xFA36, 0xFA36, .shift (-42137) 1⟩,
  ⟨0xFA37, 0xFA37, .shift (-42033) 1⟩, ⟨0xFA38, 0xFA38, .shift (-41936) 1⟩,
  ⟨0xFA39, 0xFA39, .shift (-41465) 1⟩, ⟨0xFA3A, 0xFA3A, .shift (-41362) 1⟩,
  ⟨0xFA3B, 0xFA3B, .shift (-40407) 1⟩, ⟨0xFA3C, 0xFA3C, .shift (-40398) 1⟩,
  ⟨0xFA3D, 0xFA3D, .shift (-39337) 1⟩, ⟨0xFA3E, 0xFA3E, .shift (-39126) 1⟩,
  ⟨0xFA3F, 0xFA3F, .shift (-39089) 1⟩, ⟨0xFA40, 0xFA40, .shift (-38990) 1⟩,
  ⟨0xFA41, 0xFA41, .shift (-38130) 1⟩, ⟨0xFA42, 0xFA42, .shift (-37984) 1⟩,
  ⟨0xFA43, 0xFA43, .shift (-37810) 1⟩, ⟨0xFA44, 0xFA44, .shift (-37311) 1⟩,
  ⟨0xFA45, 0xFA45, .shift (-36046) 1⟩, ⟨0xFA46, 0xFA46, .shift (-35884) 1⟩,
  ⟨0xFA47, 0xFA47, .shift (-35621) 1⟩, ⟨0xFA48, 0xFA48, .shift (-35034) 1⟩,
  ⟨0xFA49, 0xFA49, .shift (-34846) 1⟩, ⟨0xFA4A, 0xFA4A, .shift (-34344) 1⟩,
  ⟨0xFA4B, 0xFA4B, .shift (-33210) 1⟩, ⟨0xFA4C, 0xFA4C, .shift (-33038) 1⟩,
  ⟨0xFA4D, 0xFA4D, .shift (-33028) 1⟩, ⟨0xFA4E, 0xFA4E, .shift (-33030) 1⟩,
  ⟨0xFA4F, 0xFA4F, .shift (-33023) 1⟩, ⟨0xFA50, 0xFA50, .shift (-33018) 1⟩,
  ⟨0xFA51, 0xFA51, .shift (-33012) 1⟩, ⟨0xFA52, 0xFA53, .shift (-32965) 1⟩,
  ⟨0xFA54, 0xFA54, .shift (-32788) 1⟩, ⟨0xFA55, 0xFA55, .shift (-32724) 1⟩,
  ⟨0xFA56, 0xFA56, .shift (-32406) 1⟩, ⟨0xFA57, 0xFA57, .shift (-31843) 1⟩,
  ⟨0xFA58, 0xFA58, .shift (-31823) 1⟩, ⟨0xFA59, 0xFA59, .shift (-31768) 1⟩,
  ⟨0xFA5A, 0xFA5A, .shift (-31464) 1⟩, ⟨0xFA5B, 0xFA5B, .shift (-31318) 1⟩,
  ⟨0xFA5C, 0xFA5C, .shift (-30831) 1⟩, ⟨0xFA5D, 0xFA5E, .text [0x8279]⟩,
  ⟨0xFA5F, 0xFA5F, .shift (-30216) 1⟩, ⟨0xFA60, 0xFA60, .shift (-29008) 1⟩,
  ⟨0xFA61, 0xFA61, .shift (-28875) 1⟩, ⟨0xFA62, 0xFA62, .shift (-28513) 1⟩,
  ⟨0xFA63, 0xFA63, .shift (-28458) 1⟩, ⟨0xFA64, 0xFA64, .shift (-28049) 1⟩,
  ⟨0xFA65, 0xFA65, .shift (-27997) 1⟩, ⟨0xFA66, 0xFA66, .shift (-27312) 1⟩,
  ⟨0xFA67, 0xFA67, .shift (-27183) 1⟩, ⟨0xFA68, 0xFA68, .shift (-25477) 1⟩,
  ⟨0xFA69, 0xFA69, .shift (-25194) 1⟩, ⟨0xFA6A, 0xFA6A, .shift (-25135) 1⟩,
  ⟨0xFA6B, 0xFA6B, .shift (-39414) 1⟩, ⟨0xFA6C, 0xFA6C, .shift 84098 1⟩,
  ⟨0xFA6D, 0xFA6D, .shift (-30805) 1⟩, ⟨0xFA6E, 0xFA6F, .disallowed⟩,
  ⟨0xFA70, 0xFA70, .shift (-44106) 1⟩, ⟨0xFA71, 0xFA71, .shift (-43196) 1⟩,
  ⟨0xFA72, 0xFA72, .shift (-43274) 1⟩, ⟨0xFA73, 0xFA73, .shift (-43763) 1⟩,
  ⟨0xFA74, 0xFA74, .shift (-43311) 1⟩, ⟨0xFA75, 0xFA75, .shift (-43253) 1⟩,
  ⟨0xFA76, 0xFA76, .shift (-42927) 1⟩, ⟨0xFA77, 0xFA77, .shift (-42877) 1⟩,
  ⟨0xFA78, 0xFA78, .shift (-42203) 1⟩, ⟨0xFA79, 0xFA79, .shift (-42276) 1⟩,
  ⟨0xFA7A, 0xFA7A, .shift (-42209) 1⟩, ⟨0xFA7B, 0xFA7B, .shift (-42137) 1⟩,
  ⟨0xFA7C, 0xFA7C, .shift (-41506) 1⟩, ⟨0xFA7D, 0xFA7D, .shift (-41418) 1⟩,
  ⟨0xFA7E, 0xFA7E, .shift (-41274) 1⟩, ⟨0xFA7F, 0xFA7F, .shift (-41259) 1⟩,
  ⟨0xFA80, 0xFA80, .shift (-40990) 1⟩, ⟨0xFA81, 0xFA81, .shift (-40793) 1⟩,
  ⟨0xFA82, 0xFA82, .shift (-39856) 1⟩, ⟨0xFA83, 0xFA83, .shift (-39850) 1⟩,
  ⟨0xFA84, 0xFA84, .shift (-39707) 1⟩, ⟨0xFA85, 0xFA85, .shift (-39640) 1⟩,
  ⟨0xFA86, 0xFA86, .shift (-39342) 1⟩, ⟨0xFA87, 0xFA87, .shift (-39225) 1⟩,
  ⟨0xFA88, 0xFA88, .shift (-39296) 1⟩, ⟨0xFA89, 0xFA89, .shift (-39163) 1⟩,
  ⟨0xFA8A, 0xFA8A, .shift (-39210) 1⟩, ⟨0xFA8B, 0xFA8B, .shift (-39065) 1⟩,
  ⟨0xFA8C, 0xFA8C, .shift (-39000) 1⟩, ⟨0xFA8D, 0xFA8D, .shift (-38601) 1⟩,
  ⟨0xFA8E, 0xFA8E, .shift (-38514) 1⟩, ⟨0xFA8F, 0xFA8F, .shift (-38461) 1⟩,
  ⟨0xFA90, 0xFA90, .shift (-38202) 1⟩, ⟨0xFA91, 0xFA91, .shift (-37917) 1⟩,
  ⟨0xFA92, 0xFA92, .shift (-37755) 1⟩, ⟨0xFA93, 0xFA93, .shift (-37752) 1⟩]

/-- The runs from U+FA94 to U+FD69. -/
def runsFromFA94 : List Run := [
  ⟨0xFA94, 0xFA94, .shift (-37694) 1⟩, ⟨0xFA95, 0xFA95, .shift (-36636) 1⟩,
  ⟨0xFA96, 0xFA96, .shift (-36572) 1⟩, ⟨0xFA97, 0xFA97, .shift (-36182) 1⟩,
  ⟨0xFA98, 0xFA98, .shift (-35773) 1⟩, ⟨0xFA99, 0xFA99, .shift (-35790) 1⟩,
  ⟨0xFA9A, 0xFA9A, .shift (-35704) 1⟩, ⟨0xFA9B, 0xFA9B, .shift (-35453) 1⟩,
  ⟨0xFA9C, 0xFA9C, .shift (-35118) 1⟩, ⟨0xFA9D, 0xFA9D, .shift (-33526) 1⟩,
  ⟨0xFA9E, 0xFA9E, .shift (-34921) 1⟩, ⟨0xFA9F, 0xFA9F, .shift (-34800) 1⟩,
  ⟨0xFAA0, 0xFAA0, .shift (-34678) 1⟩, ⟨0xFAA1, 0xFAA1, .shift (-34352) 1⟩,
  ⟨0xFAA2, 0xFAA2, .shift (-34204) 1⟩, ⟨0xFAA3, 0xFAA3, .shift (-34152) 1⟩,
  ⟨0xFAA4, 0xFAA4, .shift (-33927) 1⟩, ⟨0xFAA5, 0xFAA5, .shift (-33926) 1⟩,
  ⟨0xFAA6, 0xFAA6, .shift (-33756) 1⟩, ⟨0xFAA7, 0xFAA7, .shift (-33740) 1⟩,
  ⟨0xFAA8, 0xFAA8, .shift (-33716) 1⟩, ⟨0xFAA9, 0xFAA9, .shift (-33631) 1⟩,
  ⟨0xFAAA, 0xFAAA, .shift (-33642) 1⟩, ⟨0xFAAB, 0xFAAB, .shift (-33247) 1⟩,
  ⟨0xFAAC, 0xFAAC, .shift (-32763) 1⟩, ⟨0xFAAD, 0xFAAD, .shift (-32493) 1⟩,
  ⟨0xFAAE, 0xFAAE, .shift (-32307) 1⟩, ⟨0xFAAF, 0xFAAF, .shift (-32084) 1⟩,
  ⟨0xFAB0, 0xFAB0, .shift (-31932) 1⟩, ⟨0xFAB1, 0xFAB1, .shift (-31603) 1⟩,
  ⟨0xFAB2, 0xFAB2, .shift (-31405) 1⟩, ⟨0xFAB3, 0xFAB3, .shift (-30561) 1⟩,
  ⟨0xFAB4, 0xFAB4, .shift (-30405) 1⟩, ⟨0xFAB5, 0xFAB5, .shift (-29500) 1⟩,
  ⟨0xFAB6, 0xFAB6, .shift (-29045) 1⟩, ⟨0xFAB7, 0xFAB7, .shift (-28977) 1⟩,
  ⟨0xFAB8, 0xFAB8, .shift (-28962) 1⟩, ⟨0xFAB9, 0xFAB9, .shift (-28666) 1⟩,
  ⟨0xFABA, 0xFABA, .shift (-28610) 1⟩, ⟨0xFABB, 0xFABB, .shift (-28656) 1⟩,
  ⟨0xFABC, 0xFABC, .shift (-28603) 1⟩, ⟨0xFABD, 0xFABD, .shift (-28607) 1⟩,
  ⟨0xFABE, 0xFABE, .shift (-28625) 1⟩, ⟨0xFABF, 0xFABF, .shift (-28550) 1⟩,
  ⟨0xFAC0, 0xFAC0, .shift (-28470) 1⟩, ⟨0xFAC1, 0xFAC1, .shift (-28089) 1⟩,
  ⟨0xFAC2, 0xFAC2, .shift (-27530) 1⟩, ⟨0xFAC3, 0xFAC3, .shift (-27217) 1⟩,
  ⟨0xFAC4, 0xFAC4, .shift (-26923) 1⟩, ⟨0xFAC5, 0xFAC5, .shift (-26703) 1⟩,
  ⟨0xFAC6, 0xFAC6, .shift (-25674) 1⟩, ⟨0xFAC7, 0xFAC7, .shift (-25572) 1⟩,
  ⟨0xFAC8, 0xFAC8, .shift (-25458) 1⟩, ⟨0xFAC9, 0xFAC9, .shift (-25326) 1⟩,
  ⟨0xFACA, 0xFACA, .shift (-25291) 1⟩, ⟨0xFACB, 0xFACB, .shift (-25280) 1⟩,
  ⟨0xFACC, 0xFACC, .shift (-25233) 1⟩, ⟨0xFACD, 0xFACD, .shift (-24507) 1⟩,
  ⟨0xFACE, 0xFACE, .shift (-23346) 1⟩, ⟨0xFACF, 0xFACF, .shift 77179 1⟩,
  ⟨0xFAD0, 0xFAD0, .shift 77172 1⟩, ⟨0xFAD1, 0xFAD1, .shift 80132 1⟩,
  ⟨0xFAD2, 0xFAD2, .shift (-48949) 1⟩, ⟨0xFAD3, 0xFAD3, .shift (-47803) 1⟩,
  ⟨0xFAD4, 0xFAD4, .shift (-47771) 1⟩, ⟨0xFAD5, 0xFAD5, .shift 87924 1⟩,
  ⟨0xFAD6, 0xFAD6, .shift 90618 1⟩, ⟨0xFAD7, 0xFAD7, .shift 99324 1⟩,
  ⟨0xFAD8, 0xFAD8, .shift (-23445) 1⟩, ⟨0xFAD9, 0xFAD9, .shift (-23371) 1⟩,
  ⟨0xFADA, 0xFAFF, .disallowed⟩, ⟨0xFB00, 0xFB00, .text [0x66, 0x66]⟩,
  ⟨0xFB01, 0xFB01, .text [0x66, 0x69]⟩, ⟨0xFB02, 0xFB02, .text [0x66, 0x6C]⟩,
  ⟨0xFB03, 0xFB03, .text [0x66, 0x66, 0x69]⟩, ⟨0xFB04, 0xFB04, .text [0x66, 0x66, 0x6C]⟩,
  ⟨0xFB05, 0xFB06, .text [0x73, 0x74]⟩, ⟨0xFB07, 0xFB12, .disallowed⟩,
  ⟨0xFB13, 0xFB13, .text [0x574, 0x576]⟩, ⟨0xFB14, 0xFB14, .text [0x574, 0x565]⟩,
  ⟨0xFB15, 0xFB15, .text [0x574, 0x56B]⟩, ⟨0xFB16, 0xFB16, .text [0x57E, 0x576]⟩,
  ⟨0xFB17, 0xFB17, .text [0x574, 0x56D]⟩, ⟨0xFB18, 0xFB1C, .disallowed⟩,
  ⟨0xFB1D, 0xFB1D, .text [0x5D9, 0x5B4]⟩, ⟨0xFB1E, 0xFB1E, .valid⟩,
  ⟨0xFB1F, 0xFB1F, .text [0x5F2, 0x5B7]⟩, ⟨0xFB20, 0xFB20, .shift (-62782) 1⟩,
  ⟨0xFB21, 0xFB21, .shift (-62801) 1⟩, ⟨0xFB22, 0xFB23, .shift (-62799) 1⟩,
  ⟨0xFB24, 0xFB26, .shift (-62793) 1⟩, ⟨0xFB27, 0xFB27, .shift (-62783) 1⟩,
  ⟨0xFB28, 0xFB28, .shift (-62782) 1⟩, ⟨0xFB29, 0xFB29, .shift (-64254) 1⟩,
  ⟨0xFB2A, 0xFB2A, .text [0x5E9, 0x5C1]⟩, ⟨0xFB2B, 0xFB2B, .text [0x5E9, 0x5C2]⟩,
  ⟨0xFB2C, 0xFB2C, .text [0x5E9, 0x5BC, 0x5C1]⟩,
  ⟨0xFB2D, 0xFB2D, .text [0x5E9, 0x5BC, 0x5C2]⟩, ⟨0xFB2E, 0xFB2E, .text [0x5D0, 0x5B7]⟩,
  ⟨0xFB2F, 0xFB2F, .text [0x5D0, 0x5B8]⟩, ⟨0xFB30, 0xFB30, .text [0x5D0, 0x5BC]⟩,
  ⟨0xFB31, 0xFB31, .text [0x5D1, 0x5BC]⟩, ⟨0xFB32, 0xFB32, .text [0x5D2, 0x5BC]⟩,
  ⟨0xFB33, 0xFB33, .text [0x5D3, 0x5BC]⟩, ⟨0xFB34, 0xFB34, .text [0x5D4, 0x5BC]⟩,
  ⟨0xFB35, 0xFB35, .text [0x5D5, 0x5BC]⟩, ⟨0xFB36, 0xFB36, .text [0x5D6, 0x5BC]⟩,
  ⟨0xFB37, 0xFB37, .disallowed⟩, ⟨0xFB38, 0xFB38, .text [0x5D8, 0x5BC]⟩,
  ⟨0xFB39, 0xFB39, .text [0x5D9, 0x5BC]⟩, ⟨0xFB3A, 0xFB3A, .text [0x5DA, 0x5BC]⟩,
  ⟨0xFB3B, 0xFB3B, .text [0x5DB, 0x5BC]⟩, ⟨0xFB3C, 0xFB3C, .text [0x5DC, 0x5BC]⟩,
  ⟨0xFB3D, 0xFB3D, .disallowed⟩, ⟨0xFB3E, 0xFB3E, .text [0x5DE, 0x5BC]⟩,
  ⟨0xFB3F, 0xFB3F, .disallowed⟩, ⟨0xFB40, 0xFB40, .text [0x5E0, 0x5BC]⟩,
  ⟨0xFB41, 0xFB41, .text [0x5E1, 0x5BC]⟩, ⟨0xFB42, 0xFB42, .disallowed⟩,
  ⟨0xFB43, 0xFB43, .text [0x5E3, 0x5BC]⟩, ⟨0xFB44, 0xFB44, .text [0x5E4, 0x5BC]⟩,
  ⟨0xFB45, 0xFB45, .disallowed⟩, ⟨0xFB46, 0xFB46, .text [0x5E6, 0x5BC]⟩,
  ⟨0xFB47, 0xFB47, .text [0x5E7, 0x5BC]⟩, ⟨0xFB48, 0xFB48, .text [0x5E8, 0x5BC]⟩,
  ⟨0xFB49, 0xFB49, .text [0x5E9, 0x5BC]⟩, ⟨0xFB4A, 0xFB4A, .text [0x5EA, 0x5BC]⟩,
  ⟨0xFB4B, 0xFB4B, .text [0x5D5, 0x5B9]⟩, ⟨0xFB4C, 0xFB4C, .text [0x5D1, 0x5BF]⟩,
  ⟨0xFB4D, 0xFB4D, .text [0x5DB, 0x5BF]⟩, ⟨0xFB4E, 0xFB4E, .text [0x5E4, 0x5BF]⟩,
  ⟨0xFB4F, 0xFB4F, .text [0x5D0, 0x5DC]⟩, ⟨0xFB50, 0xFB51, .text [0x671]⟩,
  ⟨0xFB52, 0xFB55, .text [0x67B]⟩, ⟨0xFB56, 0xFB59, .text [0x67E]⟩,
  ⟨0xFB5A, 0xFB5D, .text [0x680]⟩, ⟨0xFB5E, 0xFB61, .text [0x67A]⟩,
  ⟨0xFB62, 0xFB65, .text [0x67F]⟩, ⟨0xFB66, 0xFB69, .text [0x679]⟩,
  ⟨0xFB6A, 0xFB6D, .text [0x6A4]⟩, ⟨0xFB6E, 0xFB71, .text [0x6A6]⟩,
  ⟨0xFB72, 0xFB75, .text [0x684]⟩, ⟨0xFB76, 0xFB79, .text [0x683]⟩,
  ⟨0xFB7A, 0xFB7D, .text [0x686]⟩, ⟨0xFB7E, 0xFB81, .text [0x687]⟩,
  ⟨0xFB82, 0xFB83, .text [0x68D]⟩, ⟨0xFB84, 0xFB85, .text [0x68C]⟩,
  ⟨0xFB86, 0xFB87, .text [0x68E]⟩, ⟨0xFB88, 0xFB89, .text [0x688]⟩,
  ⟨0xFB8A, 0xFB8B, .text [0x698]⟩, ⟨0xFB8C, 0xFB8D, .text [0x691]⟩,
  ⟨0xFB8E, 0xFB91, .text [0x6A9]⟩, ⟨0xFB92, 0xFB95, .text [0x6AF]⟩,
  ⟨0xFB96, 0xFB99, .text [0x6B3]⟩, ⟨0xFB9A, 0xFB9D, .text [0x6B1]⟩,
  ⟨0xFB9E, 0xFB9F, .text [0x6BA]⟩, ⟨0xFBA0, 0xFBA3, .text [0x6BB]⟩,
  ⟨0xFBA4, 0xFBA5, .text [0x6C0]⟩, ⟨0xFBA6, 0xFBA9, .text [0x6C1]⟩,
  ⟨0xFBAA, 0xFBAD, .text [0x6BE]⟩, ⟨0xFBAE, 0xFBAF, .text [0x6D2]⟩,
  ⟨0xFBB0, 0xFBB1, .text [0x6D3]⟩, ⟨0xFBB2, 0xFBD2, .valid⟩,
  ⟨0xFBD3, 0xFBD6, .text [0x6AD]⟩, ⟨0xFBD7, 0xFBD8, .text [0x6C7]⟩,
  ⟨0xFBD9, 0xFBDA, .text [0x6C6]⟩, ⟨0xFBDB, 0xFBDC, .text [0x6C8]⟩,
  ⟨0xFBDD, 0xFBDD, .text [0x6C7, 0x674]⟩, ⟨0xFBDE, 0xFBDF, .text [0x6CB]⟩,
  ⟨0xFBE0, 0xFBE1, .text [0x6C5]⟩, ⟨0xFBE2, 0xFBE3, .text [0x6C9]⟩,
  ⟨0xFBE4, 0xFBE7, .text [0x6D0]⟩, ⟨0xFBE8, 0xFBE9, .text [0x649]⟩,
  ⟨0xFBEA, 0xFBEB, .text [0x626, 0x627]⟩, ⟨0xFBEC, 0xFBED, .text [0x626, 0x6D5]⟩,
  ⟨0xFBEE, 0xFBEF, .text [0x626, 0x648]⟩, ⟨0xFBF0, 0xFBF1, .text [0x626, 0x6C7]⟩,
  ⟨0xFBF2, 0xFBF3, .text [0x626, 0x6C6]⟩, ⟨0xFBF4, 0xFBF5, .text [0x626, 0x6C8]⟩,
  ⟨0xFBF6, 0xFBF8, .text [0x626, 0x6D0]⟩, ⟨0xFBF9, 0xFBFB, .text [0x626, 0x649]⟩,
  ⟨0xFBFC, 0xFBFF, .text [0x6CC]⟩, ⟨0xFC00, 0xFC00, .text [0x626, 0x62C]⟩,
  ⟨0xFC01, 0xFC01, .text [0x626, 0x62D]⟩, ⟨0xFC02, 0xFC02, .text [0x626, 0x645]⟩,
  ⟨0xFC03, 0xFC03, .text [0x626, 0x649]⟩, ⟨0xFC04, 0xFC04, .text [0x626, 0x64A]⟩,
  ⟨0xFC05, 0xFC05, .text [0x628, 0x62C]⟩, ⟨0xFC06, 0xFC06, .text [0x628, 0x62D]⟩,
  ⟨0xFC07, 0xFC07, .text [0x628, 0x62E]⟩, ⟨0xFC08, 0xFC08, .text [0x628, 0x645]⟩,
  ⟨0xFC09, 0xFC09, .text [0x628, 0x649]⟩, ⟨0xFC0A, 0xFC0A, .text [0x628, 0x64A]⟩,
  ⟨0xFC0B, 0xFC0B, .text [0x62A, 0x62C]⟩, ⟨0xFC0C, 0xFC0C, .text [0x62A, 0x62D]⟩,
  ⟨0xFC0D, 0xFC0D, .text [0x62A, 0x62E]⟩, ⟨0xFC0E, 0xFC0E, .text [0x62A, 0x645]⟩,
  ⟨0xFC0F, 0xFC0F, .text [0x62A, 0x649]⟩, ⟨0xFC10, 0xFC10, .text [0x62A, 0x64A]⟩,
  ⟨0xFC11, 0xFC11, .text [0x62B, 0x62C]⟩, ⟨0xFC12, 0xFC12, .text [0x62B, 0x645]⟩,
  ⟨0xFC13, 0xFC13, .text [0x62B, 0x649]⟩, ⟨0xFC14, 0xFC14, .text [0x62B, 0x64A]⟩,
  ⟨0xFC15, 0xFC15, .text [0x62C, 0x62D]⟩, ⟨0xFC16, 0xFC16, .text [0x62C, 0x645]⟩,
  ⟨0xFC17, 0xFC17, .text [0x62D, 0x62C]⟩, ⟨0xFC18, 0xFC18, .text [0x62D, 0x645]⟩,
  ⟨0xFC19, 0xFC19, .text [0x62E, 0x62C]⟩, ⟨0xFC1A, 0xFC1A, .text [0x62E, 0x62D]⟩,
  ⟨0xFC1B, 0xFC1B, .text [0x62E, 0x645]⟩, ⟨0xFC1C, 0xFC1C, .text [0x633, 0x62C]⟩,
  ⟨0xFC1D, 0xFC1D, .text [0x633, 0x62D]⟩, ⟨0xFC1E, 0xFC1E, .text [0x633, 0x62E]⟩,
  ⟨0xFC1F, 0xFC1F, .text [0x633, 0x645]⟩, ⟨0xFC20, 0xFC20, .text [0x635, 0x62D]⟩,
  ⟨0xFC21, 0xFC21, .text [0x635, 0x645]⟩, ⟨0xFC22, 0xFC22, .text [0x636, 0x62C]⟩,
  ⟨0xFC23, 0xFC23, .text [0x636, 0x62D]⟩, ⟨0xFC24, 0xFC24, .text [0x636, 0x62E]⟩,
  ⟨0xFC25, 0xFC25, .text [0x636, 0x645]⟩, ⟨0xFC26, 0xFC26, .text [0x637, 0x62D]⟩,
  ⟨0xFC27, 0xFC27, .text [0x637, 0x645]⟩, ⟨0xFC28, 0xFC28, .text [0x638, 0x645]⟩,
  ⟨0xFC29, 0xFC29, .text [0x639, 0x62C]⟩, ⟨0xFC2A, 0xFC2A, .text [0x639, 0x645]⟩,
  ⟨0xFC2B, 0xFC2B, .text [0x63A, 0x62C]⟩, ⟨0xFC2C, 0xFC2C, .text [0x63A, 0x645]⟩,
  ⟨0xFC2D, 0xFC2D, .text [0x641, 0x62C]⟩, ⟨0xFC2E, 0xFC2E, .text [0x641, 0x62D]⟩,
  ⟨0xFC2F, 0xFC2F, .text [0x641, 0x62E]⟩, ⟨0xFC30, 0xFC30, .text [0x641, 0x645]⟩,
  ⟨0xFC31, 0xFC31, .text [0x641, 0x649]⟩, ⟨0xFC32, 0xFC32, .text [0x641, 0x64A]⟩,
  ⟨0xFC33, 0xFC33, .text [0x642, 0x62D]⟩, ⟨0xFC34, 0xFC34, .text [0x642, 0x645]⟩,
  ⟨0xFC35, 0xFC35, .text [0x642, 0x649]⟩, ⟨0xFC36, 0xFC36, .text [0x642, 0x64A]⟩,
  ⟨0xFC37, 0xFC37, .text [0x643, 0x627]⟩, ⟨0xFC38, 0xFC38, .text [0x643, 0x62C]⟩,
  ⟨0xFC39, 0xFC39, .text [0x643, 0x62D]⟩, ⟨0xFC3A, 0xFC3A, .text [0x643, 0x62E]⟩,
  ⟨0xFC3B, 0xFC3B, .text [0x643, 0x644]⟩, ⟨0xFC3C, 0xFC3C, .text [0x643, 0x645]⟩,
  ⟨0xFC3D, 0xFC3D, .text [0x643, 0x649]⟩, ⟨0xFC3E, 0xFC3E, .text [0x643, 0x64A]⟩,
  ⟨0xFC3F, 0xFC3F, .text [0x644, 0x62C]⟩, ⟨0xFC40, 0xFC40, .text [0x644, 0x62D]⟩,
  ⟨0xFC41, 0xFC41, .text [0x644, 0x62E]⟩, ⟨0xFC42, 0xFC42, .text [0x644, 0x645]⟩,
  ⟨0xFC43, 0xFC43, .text [0x644, 0x649]⟩, ⟨0xFC44, 0xFC44, .text [0x644, 0x64A]⟩,
  ⟨0xFC45, 0xFC45, .text [0x645, 0x62C]⟩, ⟨0xFC46, 0xFC46, .text [0x645, 0x62D]⟩,
  ⟨0xFC47, 0xFC47, .text [0x645, 0x62E]⟩, ⟨0xFC48, 0xFC48, .text [0x645, 0x645]⟩,
  ⟨0xFC49, 0xFC49, .text [0x645, 0x649]⟩, ⟨0xFC4A, 0xFC4A, .text [0x645, 0x64A]⟩,
  ⟨0xFC4B, 0xFC4B, .text [0x646, 0x62C]⟩, ⟨0xFC4C, 0xFC4C, .text [0x646, 0x62D]⟩,
  ⟨0xFC4D, 0xFC4D, .text [0x646, 0x62E]⟩, ⟨0xFC4E, 0xFC4E, .text [0x646, 0x645]⟩,
  ⟨0xFC4F, 0xFC4F, .text [0x646, 0x649]⟩, ⟨0xFC50, 0xFC50, .text [0x646, 0x64A]⟩,
  ⟨0xFC51, 0xFC51, .text [0x647, 0x62C]⟩, ⟨0xFC52, 0xFC52, .text [0x647, 0x645]⟩,
  ⟨0xFC53, 0xFC53, .text [0x647, 0x649]⟩, ⟨0xFC54, 0xFC54, .text [0x647, 0x64A]⟩,
  ⟨0xFC55, 0xFC55, .text [0x64A, 0x62C]⟩, ⟨0xFC56, 0xFC56, .text [0x64A, 0x62D]⟩,
  ⟨0xFC57, 0xFC57, .text [0x64A, 0x62E]⟩, ⟨0xFC58, 0xFC58, .text [0x64A, 0x645]⟩,
  ⟨0xFC59, 0xFC59, .text [0x64A, 0x649]⟩, ⟨0xFC5A, 0xFC5A, .text [0x64A, 0x64A]⟩,
  ⟨0xFC5B, 0xFC5B, .text [0x630, 0x670]⟩, ⟨0xFC5C, 0xFC5C, .text [0x631, 0x670]⟩,
  ⟨0xFC5D, 0xFC5D, .text [0x649, 0x670]⟩, ⟨0xFC5E, 0xFC5E, .text [0x20, 0x64C, 0x651]⟩,
  ⟨0xFC5F, 0xFC5F, .text [0x20, 0x64D, 0x651]⟩,
  ⟨0xFC60, 0xFC60, .text [0x20, 0x64E, 0x651]⟩,
  ⟨0xFC61, 0xFC61, .text [0x20, 0x64F, 0x651]⟩,
  ⟨0xFC62, 0xFC62, .text [0x20, 0x650, 0x651]⟩,
  ⟨0xFC63, 0xFC63, .text [0x20, 0x651, 0x670]⟩, ⟨0xFC64, 0xFC64, .text [0x626, 0x631]⟩,
  ⟨0xFC65, 0xFC65, .text [0x626, 0x632]⟩, ⟨0xFC66, 0xFC66, .text [0x626, 0x645]⟩,
  ⟨0xFC67, 0xFC67, .text [0x626, 0x646]⟩, ⟨0xFC68, 0xFC68, .text [0x626, 0x649]⟩,
  ⟨0xFC69, 0xFC69, .text [0x626, 0x64A]⟩, ⟨0xFC6A, 0xFC6A, .text [0x628, 0x631]⟩,
  ⟨0xFC6B, 0xFC6B, .text [0x628, 0x632]⟩, ⟨0xFC6C, 0xFC6C, .text [0x628, 0x645]⟩,
  ⟨0xFC6D, 0xFC6D, .text [0x628, 0x646]⟩, ⟨0xFC6E, 0xFC6E, .text [0x628, 0x649]⟩,
  ⟨0xFC6F, 0xFC6F, .text [0x628, 0x64A]⟩, ⟨0xFC70, 0xFC70, .text [0x62A, 0x631]⟩,
  ⟨0xFC71, 0xFC71, .text [0x62A, 0x632]⟩, ⟨0xFC72, 0xFC72, .text [0x62A, 0x645]⟩,
  ⟨0xFC73, 0xFC73, .text [0x62A, 0x646]⟩, ⟨0xFC74, 0xFC74, .text [0x62A, 0x649]⟩,
  ⟨0xFC75, 0xFC75, .text [0x62A, 0x64A]⟩, ⟨0xFC76, 0xFC76, .text [0x62B, 0x631]⟩,
  ⟨0xFC77, 0xFC77, .text [0x62B, 0x632]⟩, ⟨0xFC78, 0xFC78, .text [0x62B, 0x645]⟩,
  ⟨0xFC79, 0xFC79, .text [0x62B, 0x646]⟩, ⟨0xFC7A, 0xFC7A, .text [0x62B, 0x649]⟩,
  ⟨0xFC7B, 0xFC7B, .text [0x62B, 0x64A]⟩, ⟨0xFC7C, 0xFC7C, .text [0x641, 0x649]⟩,
  ⟨0xFC7D, 0xFC7D, .text [0x641, 0x64A]⟩, ⟨0xFC7E, 0xFC7E, .text [0x642, 0x649]⟩,
  ⟨0xFC7F, 0xFC7F, .text [0x642, 0x64A]⟩, ⟨0xFC80, 0xFC80, .text [0x643, 0x627]⟩,
  ⟨0xFC81, 0xFC81, .text [0x643, 0x644]⟩, ⟨0xFC82, 0xFC82, .text [0x643, 0x645]⟩,
  ⟨0xFC83, 0xFC83, .text [0x643, 0x649]⟩, ⟨0xFC84, 0xFC84, .text [0x643, 0x64A]⟩,
  ⟨0xFC85, 0xFC85, .text [0x644, 0x645]⟩, ⟨0xFC86, 0xFC86, .text [0x644, 0x649]⟩,
  ⟨0xFC87, 0xFC87, .text [0x644, 0x64A]⟩, ⟨0xFC88, 0xFC88, .text [0x645, 0x627]⟩,
  ⟨0xFC89, 0xFC89, .text [0x645, 0x645]⟩, ⟨0xFC8A, 0xFC8A, .text [0x646, 0x631]⟩,
  ⟨0xFC8B, 0xFC8B, .text [0x646, 0x632]⟩, ⟨0xFC8C, 0xFC8C, .text [0x646, 0x645]⟩,
  ⟨0xFC8D, 0xFC8D, .text [0x646, 0x646]⟩, ⟨0xFC8E, 0xFC8E, .text [0x646, 0x649]⟩,
  ⟨0xFC8F, 0xFC8F, .text [0x646, 0x64A]⟩, ⟨0xFC90, 0xFC90, .text [0x649, 0x670]⟩,
  ⟨0xFC91, 0xFC91, .text [0x64A, 0x631]⟩, ⟨0xFC92, 0xFC92, .text [0x64A, 0x632]⟩,
  ⟨0xFC93, 0xFC93, .text [0x64A, 0x645]⟩, ⟨0xFC94, 0xFC94, .text [0x64A, 0x646]⟩,
  ⟨0xFC95, 0xFC95, .text [0x64A, 0x649]⟩, ⟨0xFC96, 0xFC96, .text [0x64A, 0x64A]⟩,
  ⟨0xFC97, 0xFC97, .text [0x626, 0x62C]⟩, ⟨0xFC98, 0xFC98, .text [0x626, 0x62D]⟩,
  ⟨0xFC99, 0xFC99, .text [0x626, 0x62E]⟩, ⟨0xFC9A, 0xFC9A, .text [0x626, 0x645]⟩,
  ⟨0xFC9B, 0xFC9B, .text [0x626, 0x647]⟩, ⟨0xFC9C, 0xFC9C, .text [0x628, 0x62C]⟩,
  ⟨0xFC9D, 0xFC9D, .text [0x628, 0x62D]⟩, ⟨0xFC9E, 0xFC9E, .text [0x628, 0x62E]⟩,
  ⟨0xFC9F, 0xFC9F, .text [0x628, 0x645]⟩, ⟨0xFCA0, 0xFCA0, .text [0x628, 0x647]⟩,
  ⟨0xFCA1, 0xFCA1, .text [0x62A, 0x62C]⟩, ⟨0xFCA2, 0xFCA2, .text [0x62A, 0x62D]⟩,
  ⟨0xFCA3, 0xFCA3, .text [0x62A, 0x62E]⟩, ⟨0xFCA4, 0xFCA4, .text [0x62A, 0x645]⟩,
  ⟨0xFCA5, 0xFCA5, .text [0x62A, 0x647]⟩, ⟨0xFCA6, 0xFCA6, .text [0x62B, 0x645]⟩,
  ⟨0xFCA7, 0xFCA7, .text [0x62C, 0x62D]⟩, ⟨0xFCA8, 0xFCA8, .text [0x62C, 0x645]⟩,
  ⟨0xFCA9, 0xFCA9, .text [0x62D, 0x62C]⟩, ⟨0xFCAA, 0xFCAA, .text [0x62D, 0x645]⟩,
  ⟨0xFCAB, 0xFCAB, .text [0x62E, 0x62C]⟩, ⟨0xFCAC, 0xFCAC, .text [0x62E, 0x645]⟩,
  ⟨0xFCAD, 0xFCAD, .text [0x633, 0x62C]⟩, ⟨0xFCAE, 0xFCAE, .text [0x633, 0x62D]⟩,
  ⟨0xFCAF, 0xFCAF, .text [0x633, 0x62E]⟩, ⟨0xFCB0, 0xFCB0, .text [0x633, 0x645]⟩,
  ⟨0xFCB1, 0xFCB1, .text [0x635, 0x62D]⟩, ⟨0xFCB2, 0xFCB2, .text [0x635, 0x62E]⟩,
  ⟨0xFCB3, 0xFCB3, .text [0x635, 0x645]⟩, ⟨0xFCB4, 0xFCB4, .text [0x636, 0x62C]⟩,
  ⟨0xFCB5, 0xFCB5, .text [0x636, 0x62D]⟩, ⟨0xFCB6, 0xFCB6, .text [0x636, 0x62E]⟩,
  ⟨0xFCB7, 0xFCB7, .text [0x636, 0x645]⟩, ⟨0xFCB8, 0xFCB8, .text [0x637, 0x62D]⟩,
  ⟨0xFCB9, 0xFCB9, .text [0x638, 0x645]⟩, ⟨0xFCBA, 0xFCBA, .text [0x639, 0x62C]⟩,
  ⟨0xFCBB, 0xFCBB, .text [0x639, 0x645]⟩, ⟨0xFCBC, 0xFCBC, .text [0x63A, 0x62C]⟩,
  ⟨0xFCBD, 0xFCBD, .text [0x63A, 0x645]⟩, ⟨0xFCBE, 0xFCBE, .text [0x641, 0x62C]⟩,
  ⟨0xFCBF, 0xFCBF, .text [0x641, 0x62D]⟩, ⟨0xFCC0, 0xFCC0, .text [0x641, 0x62E]⟩,
  ⟨0xFCC1, 0xFCC1, .text [0x641, 0x645]⟩, ⟨0xFCC2, 0xFCC2, .text [0x642, 0x62D]⟩,
  ⟨0xFCC3, 0xFCC3, .text [0x642, 0x645]⟩, ⟨0xFCC4, 0xFCC4, .text [0x643, 0x62C]⟩,
  ⟨0xFCC5, 0xFCC5, .text [0x643, 0x62D]⟩, ⟨0xFCC6, 0xFCC6, .text [0x643, 0x62E]⟩,
  ⟨0xFCC7, 0xFCC7, .text [0x643, 0x644]⟩, ⟨0xFCC8, 0xFCC8, .text [0x643, 0x645]⟩,
  ⟨0xFCC9, 0xFCC9, .text [0x644, 0x62C]⟩, ⟨0xFCCA, 0xFCCA, .text [0x644, 0x62D]⟩,
  ⟨0xFCCB, 0xFCCB, .text [0x644, 0x62E]⟩, ⟨0xFCCC, 0xFCCC, .text [0x644, 0x645]⟩,
  ⟨0xFCCD, 0xFCCD, .text [0x644, 0x647]⟩, ⟨0xFCCE, 0xFCCE, .text [0x645, 0x62C]⟩,
  ⟨0xFCCF, 0xFCCF, .text [0x645, 0x62D]⟩, ⟨0xFCD0, 0xFCD0, .text [0x645, 0x62E]⟩,
  ⟨0xFCD1, 0xFCD1, .text [0x645, 0x645]⟩, ⟨0xFCD2, 0xFCD2, .text [0x646, 0x62C]⟩,
  ⟨0xFCD3, 0xFCD3, .text [0x646, 0x62D]⟩, ⟨0xFCD4, 0xFCD4, .text [0x646, 0x62E]⟩,
  ⟨0xFCD5, 0xFCD5, .text [0x646, 0x645]⟩, ⟨0xFCD6, 0xFCD6, .text [0x646, 0x647]⟩,
  ⟨0xFCD7, 0xFCD7, .text [0x647, 0x62C]⟩, ⟨0xFCD8, 0xFCD8, .text [0x647, 0x645]⟩,
  ⟨0xFCD9, 0xFCD9, .text [0x647, 0x670]⟩, ⟨0xFCDA, 0xFCDA, .text [0x64A, 0x62C]⟩,
  ⟨0xFCDB, 0xFCDB, .text [0x64A, 0x62D]⟩, ⟨0xFCDC, 0xFCDC, .text [0x64A, 0x62E]⟩,
  ⟨0xFCDD, 0xFCDD, .text [0x64A, 0x645]⟩, ⟨0xFCDE, 0xFCDE, .text [0x64A, 0x647]⟩,
  ⟨0xFCDF, 0xFCDF, .text [0x626, 0x645]⟩, ⟨0xFCE0, 0xFCE0, .text [0x626, 0x647]⟩,
  ⟨0xFCE1, 0xFCE1, .text [0x628, 0x645]⟩, ⟨0xFCE2, 0xFCE2, .text [0x628, 0x647]⟩,
  ⟨0xFCE3, 0xFCE3, .text [0x62A, 0x645]⟩, ⟨0xFCE4, 0xFCE4, .text [0x62A, 0x647]⟩,
  ⟨0xFCE5, 0xFCE5, .text [0x62B, 0x645]⟩, ⟨0xFCE6, 0xFCE6, .text [0x62B, 0x647]⟩,
  ⟨0xFCE7, 0xFCE7, .text [0x633, 0x645]⟩, ⟨0xFCE8, 0xFCE8, .text [0x633, 0x647]⟩,
  ⟨0xFCE9, 0xFCE9, .text [0x634, 0x645]⟩, ⟨0xFCEA, 0xFCEA, .text [0x634, 0x647]⟩,
  ⟨0xFCEB, 0xFCEB, .text [0x643, 0x644]⟩, ⟨0xFCEC, 0xFCEC, .text [0x643, 0x645]⟩,
  ⟨0xFCED, 0xFCED, .text [0x644, 0x645]⟩, ⟨0xFCEE, 0xFCEE, .text [0x646, 0x645]⟩,
  ⟨0xFCEF, 0xFCEF, .text [0x646, 0x647]⟩, ⟨0xFCF0, 0xFCF0, .text [0x64A, 0x645]⟩,
  ⟨0xFCF1, 0xFCF1, .text [0x64A, 0x647]⟩, ⟨0xFCF2, 0xFCF2, .text [0x640, 0x64E, 0x651]⟩,
  ⟨0xFCF3, 0xFCF3, .text [0x640, 0x64F, 0x651]⟩,
  ⟨0xFCF4, 0xFCF4, .text [0x640, 0x650, 0x651]⟩, ⟨0xFCF5, 0xFCF5, .text [0x637, 0x649]⟩,
  ⟨0xFCF6, 0xFCF6, .text [0x637, 0x64A]⟩, ⟨0xFCF7, 0xFCF7, .text [0x639, 0x649]⟩,
  ⟨0xFCF8, 0xFCF8, .text [0x639, 0x64A]⟩, ⟨0xFCF9, 0xFCF9, .text [0x63A, 0x649]⟩,
  ⟨0xFCFA, 0xFCFA, .text [0x63A, 0x64A]⟩, ⟨0xFCFB, 0xFCFB, .text [0x633, 0x649]⟩,
  ⟨0xFCFC, 0xFCFC, .text [0x633, 0x64A]⟩, ⟨0xFCFD, 0xFCFD, .text [0x634, 0x649]⟩,
  ⟨0xFCFE, 0xFCFE, .text [0x634, 0x64A]⟩, ⟨0xFCFF, 0xFCFF, .text [0x62D, 0x649]⟩,
  ⟨0xFD00, 0xFD00, .text [0x62D, 0x64A]⟩, ⟨0xFD01, 0xFD01, .text [0x62C, 0x649]⟩,
  ⟨0xFD02, 0xFD02, .text [0x62C, 0x64A]⟩, ⟨0xFD03, 0xFD03, .text [0x62E, 0x649]⟩,
  ⟨0xFD04, 0xFD04, .text [0x62E, 0x64A]⟩, ⟨0xFD05, 0xFD05, .text [0x635, 0x649]⟩,
  ⟨0xFD06, 0xFD06, .text [0x635, 0x64A]⟩, ⟨0xFD07, 0xFD07, .text [0x636, 0x649]⟩,
  ⟨0xFD08, 0xFD08, .text [0x636, 0x64A]⟩, ⟨0xFD09, 0xFD09, .text [0x634, 0x62C]⟩,
  ⟨0xFD0A, 0xFD0A, .text [0x634, 0x62D]⟩, ⟨0xFD0B, 0xFD0B, .text [0x634, 0x62E]⟩,
  ⟨0xFD0C, 0xFD0C, .text [0x634, 0x645]⟩, ⟨0xFD0D, 0xFD0D, .text [0x634, 0x631]⟩,
  ⟨0xFD0E, 0xFD0E, .text [0x633, 0x631]⟩, ⟨0xFD0F, 0xFD0F, .text [0x635, 0x631]⟩,
  ⟨0xFD10, 0xFD10, .text [0x636, 0x631]⟩, ⟨0xFD11, 0xFD11, .text [0x637, 0x649]⟩,
  ⟨0xFD12, 0xFD12, .text [0x637, 0x64A]⟩, ⟨0xFD13, 0xFD13, .text [0x639, 0x649]⟩,
  ⟨0xFD14, 0xFD14, .text [0x639, 0x64A]⟩, ⟨0xFD15, 0xFD15, .text [0x63A, 0x649]⟩,
  ⟨0xFD16, 0xFD16, .text [0x63A, 0x64A]⟩, ⟨0xFD17, 0xFD17, .text [0x633, 0x649]⟩,
  ⟨0xFD18, 0xFD18, .text [0x633, 0x64A]⟩, ⟨0xFD19, 0xFD19, .text [0x634, 0x649]⟩,
  ⟨0xFD1A, 0xFD1A, .text [0x634, 0x64A]⟩, ⟨0xFD1B, 0xFD1B, .text [0x62D, 0x649]⟩,
  ⟨0xFD1C, 0xFD1C, .text [0x62D, 0x64A]⟩, ⟨0xFD1D, 0xFD1D, .text [0x62C, 0x649]⟩,
  ⟨0xFD1E, 0xFD1E, .text [0x62C, 0x64A]⟩, ⟨0xFD1F, 0xFD1F, .text [0x62E, 0x649]⟩,
  ⟨0xFD20, 0xFD20, .text [0x62E, 0x64A]⟩, ⟨0xFD21, 0xFD21, .text [0x635, 0x649]⟩,
  ⟨0xFD22, 0xFD22, .text [0x635, 0x64A]⟩, ⟨0xFD23, 0xFD23, .text [0x636, 0x649]⟩,
  ⟨0xFD24, 0xFD24, .text [0x636, 0x64A]⟩, ⟨0xFD25, 0xFD25, .text [0x634, 0x62C]⟩,
  ⟨0xFD26, 0xFD26, .text [0x634, 0x62D]⟩, ⟨0xFD27, 0xFD27, .text [0x634, 0x62E]⟩,
  ⟨0xFD28, 0xFD28, .text [0x634, 0x645]⟩, ⟨0xFD29, 0xFD29, .text [0x634, 0x631]⟩,
  ⟨0xFD2A, 0xFD2A, .text [0x633, 0x631]⟩, ⟨0xFD2B, 0xFD2B, .text [0x635, 0x631]⟩,
  ⟨0xFD2C, 0xFD2C, .text [0x636, 0x631]⟩, ⟨0xFD2D, 0xFD2D, .text [0x634, 0x62C]⟩,
  ⟨0xFD2E, 0xFD2E, .text [0x634, 0x62D]⟩, ⟨0xFD2F, 0xFD2F, .text [0x634, 0x62E]⟩,
  ⟨0xFD30, 0xFD30, .text [0x634, 0x645]⟩, ⟨0xFD31, 0xFD31, .text [0x633, 0x647]⟩,
  ⟨0xFD32, 0xFD32, .text [0x634, 0x647]⟩, ⟨0xFD33, 0xFD33, .text [0x637, 0x645]⟩,
  ⟨0xFD34, 0xFD34, .text [0x633, 0x62C]⟩, ⟨0xFD35, 0xFD35, .text [0x633, 0x62D]⟩,
  ⟨0xFD36, 0xFD36, .text [0x633, 0x62E]⟩, ⟨0xFD37, 0xFD37, .text [0x634, 0x62C]⟩,
  ⟨0xFD38, 0xFD38, .text [0x634, 0x62D]⟩, ⟨0xFD39, 0xFD39, .text [0x634, 0x62E]⟩,
  ⟨0xFD3A, 0xFD3A, .text [0x637, 0x645]⟩, ⟨0xFD3B, 0xFD3B, .text [0x638, 0x645]⟩,
  ⟨0xFD3C, 0xFD3D, .text [0x627, 0x64B]⟩, ⟨0xFD3E, 0xFD4F, .valid⟩,
  ⟨0xFD50, 0xFD50, .text [0x62A, 0x62C, 0x645]⟩,
  ⟨0xFD51, 0xFD52, .text [0x62A, 0x62D, 0x62C]⟩,
  ⟨0xFD53, 0xFD53, .text [0x62A, 0x62D, 0x645]⟩,
  ⟨0xFD54, 0xFD54, .text [0x62A, 0x62E, 0x645]⟩,
  ⟨0xFD55, 0xFD55, .text [0x62A, 0x645, 0x62C]⟩,
  ⟨0xFD56, 0xFD56, .text [0x62A, 0x645, 0x62D]⟩,
  ⟨0xFD57, 0xFD57, .text [0x62A, 0x645, 0x62E]⟩,
  ⟨0xFD58, 0xFD59, .text [0x62C, 0x645, 0x62D]⟩,
  ⟨0xFD5A, 0xFD5A, .text [0x62D, 0x645, 0x64A]⟩,
  ⟨0xFD5B, 0xFD5B, .text [0x62D, 0x645, 0x649]⟩,
  ⟨0xFD5C, 0xFD5C, .text [0x633, 0x62D, 0x62C]⟩,
  ⟨0xFD5D, 0xFD5D, .text [0x633, 0x62C, 0x62D]⟩,
  ⟨0xFD5E, 0xFD5E, .text [0x633, 0x62C, 0x649]⟩,
  ⟨0xFD5F, 0xFD60, .text [0x633, 0x645, 0x62D]⟩,
  ⟨0xFD61, 0xFD61, .text [0x633, 0x645, 0x62C]⟩,
  ⟨0xFD62, 0xFD63, .text [0x633, 0x645, 0x645]⟩,
  ⟨0xFD64, 0xFD65, .text [0x635, 0x62D, 0x62D]⟩,
  ⟨0xFD66, 0xFD66, .text [0x635, 0x645, 0x645]⟩,
  ⟨0xFD67, 0xFD68, .text [0x634, 0x62D, 0x645]⟩,
  ⟨0xFD69, 0xFD69, .text [0x634, 0x62C, 0x64A]⟩]

/-- The runs from U+FD6A to U+10F59. -/
def runsFromFD6A : List Run := [
  ⟨0xFD6A, 0xFD6B, .text [0x634, 0x645, 0x62E]⟩,
  ⟨0xFD6C, 0xFD6D, .text [0x634, 0x645, 0x645]⟩,
  ⟨0xFD6E, 0xFD6E, .text [0x636, 0x62D, 0x649]⟩,
  ⟨0xFD6F, 0xFD70, .text [0x636, 0x62E, 0x645]⟩,
  ⟨0xFD71, 0xFD72, .text [0x637, 0x645, 0x62D]⟩,
  ⟨0xFD73, 0xFD73, .text [0x637, 0x645, 0x645]⟩,
  ⟨0xFD74, 0xFD74, .text [0x637, 0x645, 0x64A]⟩,
  ⟨0xFD75, 0xFD75, .text [0x639, 0x62C, 0x645]⟩,
  ⟨0xFD76, 0xFD77, .text [0x639, 0x645, 0x645]⟩,
  ⟨0xFD78, 0xFD78, .text [0x639, 0x645, 0x649]⟩,
  ⟨0xFD79, 0xFD79, .text [0x63A, 0x645, 0x645]⟩,
  ⟨0xFD7A, 0xFD7A, .text [0x63A, 0x645, 0x64A]⟩,
  ⟨0xFD7B, 0xFD7B, .text [0x63A, 0x645, 0x649]⟩,
  ⟨0xFD7C, 0xFD7D, .text [0x641, 0x62E, 0x645]⟩,
  ⟨0xFD7E, 0xFD7E, .text [0x642, 0x645, 0x62D]⟩,
  ⟨0xFD7F, 0xFD7F, .text [0x642, 0x645, 0x645]⟩,
  ⟨0xFD80, 0xFD80, .text [0x644, 0x62D, 0x645]⟩,
  ⟨0xFD81, 0xFD81, .text [0x644, 0x62D, 0x64A]⟩,
  ⟨0xFD82, 0xFD82, .text [0x644, 0x62D, 0x649]⟩,
  ⟨0xFD83, 0xFD84, .text [0x644, 0x62C, 0x62C]⟩,
  ⟨0xFD85, 0xFD86, .text [0x644, 0x62E, 0x645]⟩,
  ⟨0xFD87, 0xFD88, .text [0x644, 0x645, 0x62D]⟩,
  ⟨0xFD89, 0xFD89, .text [0x645, 0x62D, 0x62C]⟩,
  ⟨0xFD8A, 0xFD8A, .text [0x645, 0x62D, 0x645]⟩,
  ⟨0xFD8B, 0xFD8B, .text [0x645, 0x62D, 0x64A]⟩,
  ⟨0xFD8C, 0xFD8C, .text [0x645, 0x62C, 0x62D]⟩,
  ⟨0xFD8D, 0xFD8D, .text [0x645, 0x62C, 0x645]⟩,
  ⟨0xFD8E, 0xFD8E, .text [0x645, 0x62E, 0x62C]⟩,
  ⟨0xFD8F, 0xFD8F, .text [0x645, 0x62E, 0x645]⟩, ⟨0xFD90, 0xFD91, .valid⟩,
  ⟨0xFD92, 0xFD92, .text [0x645, 0x62C, 0x62E]⟩,
  ⟨0xFD93, 0xFD93, .text [0x647, 0x645, 0x62C]⟩,
  ⟨0xFD94, 0xFD94, .text [0x647, 0x645, 0x645]⟩,
  ⟨0xFD95, 0xFD95, .text [0x646, 0x62D, 0x645]⟩,
  ⟨0xFD96, 0xFD96, .text [0x646, 0x62D, 0x649]⟩,
  ⟨0xFD97, 0xFD98, .text [0x646, 0x62C, 0x645]⟩,
  ⟨0xFD99, 0xFD99, .text [0x646, 0x62C, 0x649]⟩,
  ⟨0xFD9A, 0xFD9A, .text [0x646, 0x645, 0x64A]⟩,
  ⟨0xFD9B, 0xFD9B, .text [0x646, 0x645, 0x649]⟩,
  ⟨0xFD9C, 0xFD9D, .text [0x64A, 0x645, 0x645]⟩,
  ⟨0xFD9E, 0xFD9E, .text [0x628, 0x62E, 0x64A]⟩,
  ⟨0xFD9F, 0xFD9F, .text [0x62A, 0x62C, 0x64A]⟩,
  ⟨0xFDA0, 0xFDA0, .text [0x62A, 0x62C, 0x649]⟩,
  ⟨0xFDA1, 0xFDA1, .text [0x62A, 0x62E, 0x64A]⟩,
  ⟨0xFDA2, 0xFDA2, .text [0x62A, 0x62E, 0x649]⟩,
  ⟨0xFDA3, 0xFDA3, .text [0x62A, 0x645, 0x64A]⟩,
  ⟨0xFDA4, 0xFDA4, .text [0x62A, 0x645, 0x649]⟩,
  ⟨0xFDA5, 0xFDA5, .text [0x62C, 0x645, 0x64A]⟩,
  ⟨0xFDA6, 0xFDA6, .text [0x62C, 0x62D, 0x649]⟩,
  ⟨0xFDA7, 0xFDA7, .text [0x62C, 0x645, 0x649]⟩,
  ⟨0xFDA8, 0xFDA8, .text [0x633, 0x62E, 0x649]⟩,
  ⟨0xFDA9, 0xFDA9, .text [0x635, 0x62D, 0x64A]⟩,
  ⟨0xFDAA, 0xFDAA, .text [0x634, 0x62D, 0x64A]⟩,
  ⟨0xFDAB, 0xFDAB, .text [0x636, 0x62D, 0x64A]⟩,
  ⟨0xFDAC, 0xFDAC, .text [0x644, 0x62C, 0x64A]⟩,
  ⟨0xFDAD, 0xFDAD, .text [0x644, 0x645, 0x64A]⟩,
  ⟨0xFDAE, 0xFDAE, .text [0x64A, 0x62D, 0x64A]⟩,
  ⟨0xFDAF, 0xFDAF, .text [0x64A, 0x62C, 0x64A]⟩,
  ⟨0xFDB0, 0xFDB0, .text [0x64A, 0x645, 0x64A]⟩,
  ⟨0xFDB1, 0xFDB1, .text [0x645, 0x645, 0x64A]⟩,
  ⟨0xFDB2, 0xFDB2, .text [0x642, 0x645, 0x64A]⟩,
  ⟨0xFDB3, 0xFDB3, .text [0x646, 0x62D, 0x64A]⟩,
  ⟨0xFDB4, 0xFDB4, .text [0x642, 0x645, 0x62D]⟩,
  ⟨0xFDB5, 0xFDB5, .text [0x644, 0x62D, 0x645]⟩,
  ⟨0xFDB6, 0xFDB6, .text [0x639, 0x645, 0x64A]⟩,
  ⟨0xFDB7, 0xFDB7, .text [0x643, 0x645, 0x64A]⟩,
  ⟨0xFDB8, 0xFDB8, .text [0x646, 0x62C, 0x62D]⟩,
  ⟨0xFDB9, 0xFDB9, .text [0x645, 0x62E, 0x64A]⟩,
  ⟨0xFDBA, 0xFDBA, .text [0x644, 0x62C, 0x645]⟩,
  ⟨0xFDBB, 0xFDBB, .text [0x643, 0x645, 0x645]⟩,
  ⟨0xFDBC, 0xFDBC, .text [0x644, 0x62C, 0x645]⟩,
  ⟨0xFDBD, 0xFDBD, .text [0x646, 0x62C, 0x62D]⟩,
  ⟨0xFDBE, 0xFDBE, .text [0x62C, 0x62D, 0x64A]⟩,
  ⟨0xFDBF, 0xFDBF, .text [0x62D, 0x62C, 0x64A]⟩,
  ⟨0xFDC0, 0xFDC0, .text [0x645, 0x62C, 0x64A]⟩,
  ⟨0xFDC1, 0xFDC1, .text [0x641, 0x645, 0x64A]⟩,
  ⟨0xFDC2, 0xFDC2, .text [0x628, 0x62D, 0x64A]⟩,
  ⟨0xFDC3, 0xFDC3, .text [0x643, 0x645, 0x645]⟩,
  ⟨0xFDC4, 0xFDC4, .text [0x639, 0x62C, 0x645]⟩,
  ⟨0xFDC5, 0xFDC5, .text [0x635, 0x645, 0x645]⟩,
  ⟨0xFDC6, 0xFDC6, .text [0x633, 0x62E, 0x64A]⟩,
  ⟨0xFDC7, 0xFDC7, .text [0x646, 0x62C, 0x64A]⟩, ⟨0xFDC8, 0xFDCF, .valid⟩,
  ⟨0xFDD0, 0xFDEF, .disallowed⟩, ⟨0xFDF0, 0xFDF0, .text [0x635, 0x644, 0x6D2]⟩,
  ⟨0xFDF1, 0xFDF1, .text [0x642, 0x644, 0x6D2]⟩,
  ⟨0xFDF2, 0xFDF2, .text [0x627, 0x644, 0x644, 0x647]⟩,
  ⟨0xFDF3, 0xFDF3, .text [0x627, 0x643, 0x628, 0x631]⟩,
  ⟨0xFDF4, 0xFDF4, .text [0x645, 0x62D, 0x645, 0x62F]⟩,
  ⟨0xFDF5, 0xFDF5, .text [0x635, 0x644, 0x639, 0x645]⟩,
  ⟨0xFDF6, 0xFDF6, .text [0x631, 0x633, 0x648, 0x644]⟩,
  ⟨0xFDF7, 0xFDF7, .text [0x639, 0x644, 0x64A, 0x647]⟩,
  ⟨0xFDF8, 0xFDF8, .text [0x648, 0x633, 0x644, 0x645]⟩,
  ⟨0xFDF9, 0xFDF9, .text [0x635, 0x644, 0x649]⟩,
  ⟨0xFDFA, 0xFDFA, .text [0x635, 0x644, 0x649, 0x20, 0x627, 0x644, 0x644, 0x647, 0x20, 0x639, 0x644, 0x64A, 0x647, 0x20, 0x648, 0x633, 0x644, 0x645]⟩,
  ⟨0xFDFB, 0xFDFB, .text [0x62C, 0x644, 0x20, 0x62C, 0x644, 0x627, 0x644, 0x647]⟩,
  ⟨0xFDFC, 0xFDFC, .text [0x631, 0x6CC, 0x627, 0x644]⟩, ⟨0xFDFD, 0xFDFF, .valid⟩,
  ⟨0xFE00, 0xFE0F, .ignored⟩, ⟨0xFE10, 0xFE10, .shift (-64996) 1⟩,
  ⟨0xFE11, 0xFE11, .shift (-52752) 1⟩, ⟨0xFE12, 0xFE12, .disallowed⟩,
  ⟨0xFE13, 0xFE14, .shift (-64985) 1⟩, ⟨0xFE15, 0xFE15, .shift (-65012) 1⟩,
  ⟨0xFE16, 0xFE16, .shift (-64983) 1⟩, ⟨0xFE17, 0xFE18, .shift (-52737) 1⟩,
  ⟨0xFE19, 0xFE1F, .disallowed⟩, ⟨0xFE20, 0xFE2F, .valid⟩, ⟨0xFE30, 0xFE30, .disallowed⟩,
  ⟨0xFE31, 0xFE31, .shift (-56861) 1⟩, ⟨0xFE32, 0xFE32, .shift (-56863) 1⟩,
  ⟨0xFE33, 0xFE34, .text [0x5F]⟩, ⟨0xFE35, 0xFE36, .shift (-65037) 1⟩,
  ⟨0xFE37, 0xFE37, .shift (-64956) 1⟩, ⟨0xFE38, 0xFE38, .shift (-64955) 1⟩,
  ⟨0xFE39, 0xFE3A, .shift (-52773) 1⟩, ⟨0xFE3B, 0xFE3C, .shift (-52779) 1⟩,
  ⟨0xFE3D, 0xFE3E, .shift (-52787) 1⟩, ⟨0xFE3F, 0xFE40, .shift (-52791) 1⟩,
  ⟨0xFE41, 0xFE44, .shift (-52789) 1⟩, ⟨0xFE45, 0xFE46, .valid⟩,
  ⟨0xFE47, 0xFE47, .shift (-65004) 1⟩, ⟨0xFE48, 0xFE48, .shift (-65003) 1⟩,
  ⟨0xFE49, 0xFE4C, .text [0x20, 0x305]⟩, ⟨0xFE4D, 0xFE4F, .text [0x5F]⟩,
  ⟨0xFE50, 0xFE50, .shift (-65060) 1⟩, ⟨0xFE51, 0xFE51, .shift (-52816) 1⟩,
  ⟨0xFE52, 0xFE53, .disallowed⟩, ⟨0xFE54, 0xFE54, .shift (-65049) 1⟩,
  ⟨0xFE55, 0xFE55, .shift (-65051) 1⟩, ⟨0xFE56, 0xFE56, .shift (-65047) 1⟩,
  ⟨0xFE57, 0xFE57, .shift (-65078) 1⟩, ⟨0xFE58, 0xFE58, .shift (-56900) 1⟩,
  ⟨0xFE59, 0xFE5A, .shift (-65073) 1⟩, ⟨0xFE5B, 0xFE5B, .shift (-64992) 1⟩,
  ⟨0xFE5C, 0xFE5C, .shift (-64991) 1⟩, ⟨0xFE5D, 0xFE5E, .shift (-52809) 1⟩,
  ⟨0xFE5F, 0xFE5F, .shift (-65084) 1⟩, ⟨0xFE60, 0xFE60, .shift (-65082) 1⟩,
  ⟨0xFE61, 0xFE62, .shift (-65079) 1⟩, ⟨0xFE63, 0xFE63, .shift (-65078) 1⟩,
  ⟨0xFE64, 0xFE64, .shift (-65064) 1⟩, ⟨0xFE65, 0xFE65, .shift (-65063) 1⟩,
  ⟨0xFE66, 0xFE66, .shift (-65065) 1⟩, ⟨0xFE67, 0xFE67, .disallowed⟩,
  ⟨0xFE68, 0xFE68, .shift (-65036) 1⟩, ⟨0xFE69, 0xFE6A, .shift (-65093) 1⟩,
  ⟨0xFE6B, 0xFE6B, .shift (-65067) 1⟩, ⟨0xFE6C, 0xFE6F, .disallowed⟩,
  ⟨0xFE70, 0xFE70, .text [0x20, 0x64B]⟩, ⟨0xFE71, 0xFE71, .text [0x640, 0x64B]⟩,
  ⟨0xFE72, 0xFE72, .text [0x20, 0x64C]⟩, ⟨0xFE73, 0xFE73, .valid⟩,
  ⟨0xFE74, 0xFE74, .text [0x20, 0x64D]⟩, ⟨0xFE75, 0xFE75, .disallowed⟩,
  ⟨0xFE76, 0xFE76, .text [0x20, 0x64E]⟩, ⟨0xFE77, 0xFE77, .text [0x640, 0x64E]⟩,
  ⟨0xFE78, 0xFE78, .text [0x20, 0x64F]⟩, ⟨0xFE79, 0xFE79, .text [0x640, 0x64F]⟩,
  ⟨0xFE7A, 0xFE7A, .text [0x20, 0x650]⟩, ⟨0xFE7B, 0xFE7B, .text [0x640, 0x650]⟩,
  ⟨0xFE7C, 0xFE7C, .text [0x20, 0x651]⟩, ⟨0xFE7D, 0xFE7D, .text [0x640, 0x651]⟩,
  ⟨0xFE7E, 0xFE7E, .text [0x20, 0x652]⟩, ⟨0xFE7F, 0xFE7F, .text [0x640, 0x652]⟩,
  ⟨0xFE80, 0xFE80, .shift (-63583) 1⟩, ⟨0xFE81, 0xFE82, .text [0x622]⟩,
  ⟨0xFE83, 0xFE84, .text [0x623]⟩, ⟨0xFE85, 0xFE86, .text [0x624]⟩,
  ⟨0xFE87, 0xFE88, .text [0x625]⟩, ⟨0xFE89, 0xFE8C, .text [0x626]⟩,
  ⟨0xFE8D, 0xFE8E, .text [0x627]⟩, ⟨0xFE8F, 0xFE92, .text [0x628]⟩,
  ⟨0xFE93, 0xFE94, .text [0x629]⟩, ⟨0xFE95, 0xFE98, .text [0x62A]⟩,
  ⟨0xFE99, 0xFE9C, .text [0x62B]⟩, ⟨0xFE9D, 0xFEA0, .text [0x62C]⟩,
  ⟨0xFEA1, 0xFEA4, .text [0x62D]⟩, ⟨0xFEA5, 0xFEA8, .text [0x62E]⟩,
  ⟨0xFEA9, 0xFEAA, .text [0x62F]⟩, ⟨0xFEAB, 0xFEAC, .text [0x630]⟩,
  ⟨0xFEAD, 0xFEAE, .text [0x631]⟩, ⟨0xFEAF, 0xFEB0, .text [0x632]⟩,
  ⟨0xFEB1, 0xFEB4, .text [0x633]⟩, ⟨0xFEB5, 0xFEB8, .text [0x634]⟩,
  ⟨0xFEB9, 0xFEBC, .text [0x635]⟩, ⟨0xFEBD, 0xFEC0, .text [0x636]⟩,
  ⟨0xFEC1, 0xFEC4, .text [0x637]⟩, ⟨0xFEC5, 0xFEC8, .text [0x638]⟩,
  ⟨0xFEC9, 0xFECC, .text [0x639]⟩, ⟨0xFECD, 0xFED0, .text [0x63A]⟩,
  ⟨0xFED1, 0xFED4, .text [0x641]⟩, ⟨0xFED5, 0xFED8, .text [0x642]⟩,
  ⟨0xFED9, 0xFEDC, .text [0x643]⟩, ⟨0xFEDD, 0xFEE0, .text [0x644]⟩,
  ⟨0xFEE1, 0xFEE4, .text [0x645]⟩, ⟨0xFEE5, 0xFEE8, .text [0x646]⟩,
  ⟨0xFEE9, 0xFEEC, .text [0x647]⟩, ⟨0xFEED, 0xFEEE, .text [0x648]⟩,
  ⟨0xFEEF, 0xFEF0, .text [0x649]⟩, ⟨0xFEF1, 0xFEF4, .text [0x64A]⟩,
  ⟨0xFEF5, 0xFEF6, .text [0x644, 0x622]⟩, ⟨0xFEF7, 0xFEF8, .text [0x644, 0x623]⟩,
  ⟨0xFEF9, 0xFEFA, .text [0x644, 0x625]⟩, ⟨0xFEFB, 0xFEFC, .text [0x644, 0x627]⟩,
  ⟨0xFEFD, 0xFEFE, .disallowed⟩, ⟨0xFEFF, 0xFEFF, .ignored⟩, ⟨0xFF00, 0xFF00, .disallowed⟩,
  ⟨0xFF01, 0xFF20, .shift (-65248) 1⟩, ⟨0xFF21, 0xFF3A, .shift (-65216) 1⟩,
  ⟨0xFF3B, 0xFF5E, .shift (-65248) 1⟩, ⟨0xFF5F, 0xFF60, .shift (-54746) 1⟩,
  ⟨0xFF61, 0xFF61, .shift (-65331) 1⟩, ⟨0xFF62, 0xFF63, .shift (-53078) 1⟩,
  ⟨0xFF64, 0xFF64, .shift (-53091) 1⟩, ⟨0xFF65, 0xFF65, .shift (-52842) 1⟩,
  ⟨0xFF66, 0xFF66, .shift (-52852) 1⟩, ⟨0xFF67, 0xFF67, .shift (-52934) 1⟩,
  ⟨0xFF68, 0xFF68, .shift (-52933) 1⟩, ⟨0xFF69, 0xFF69, .shift (-52932) 1⟩,
  ⟨0xFF6A, 0xFF6A, .shift (-52931) 1⟩, ⟨0xFF6B, 0xFF6B, .shift (-52930) 1⟩,
  ⟨0xFF6C, 0xFF6C, .shift (-52873) 1⟩, ⟨0xFF6D, 0xFF6D, .shift (-52872) 1⟩,
  ⟨0xFF6E, 0xFF6E, .shift (-52871) 1⟩, ⟨0xFF6F, 0xFF6F, .shift (-52908) 1⟩,
  ⟨0xFF70, 0xFF70, .shift (-52852) 1⟩, ⟨0xFF71, 0xFF71, .shift (-52943) 1⟩,
  ⟨0xFF72, 0xFF72, .shift (-52942) 1⟩, ⟨0xFF73, 0xFF73, .shift (-52941) 1⟩,
  ⟨0xFF74, 0xFF74, .shift (-52940) 1⟩, ⟨0xFF75, 0xFF76, .shift (-52939) 1⟩,
  ⟨0xFF77, 0xFF77, .shift (-52938) 1⟩, ⟨0xFF78, 0xFF78, .shift (-52937) 1⟩,
  ⟨0xFF79, 0xFF79, .shift (-52936) 1⟩, ⟨0xFF7A, 0xFF7A, .shift (-52935) 1⟩,
  ⟨0xFF7B, 0xFF7B, .shift (-52934) 1⟩, ⟨0xFF7C, 0xFF7C, .shift (-52933) 1⟩,
  ⟨0xFF7D, 0xFF7D, .shift (-52932) 1⟩, ⟨0xFF7E, 0xFF7E, .shift (-52931) 1⟩,
  ⟨0xFF7F, 0xFF7F, .shift (-52930) 1⟩, ⟨0xFF80, 0xFF80, .shift (-52929) 1⟩,
  ⟨0xFF81, 0xFF81, .shift (-52928) 1⟩, ⟨0xFF82, 0xFF82, .shift (-52926) 1⟩,
  ⟨0xFF83, 0xFF83, .shift (-52925) 1⟩, ⟨0xFF84, 0xFF84, .shift (-52924) 1⟩,
  ⟨0xFF85, 0xFF8A, .shift (-52923) 1⟩, ⟨0xFF8B, 0xFF8B, .shift (-52921) 1⟩,
  ⟨0xFF8C, 0xFF8C, .shift (-52919) 1⟩, ⟨0xFF8D, 0xFF8D, .shift (-52917) 1⟩,
  ⟨0xFF8E, 0xFF8E, .shift (-52915) 1⟩, ⟨0xFF8F, 0xFF93, .shift (-52913) 1⟩,
  ⟨0xFF94, 0xFF94, .shift (-52912) 1⟩, ⟨0xFF95, 0xFF95, .shift (-52911) 1⟩,
  ⟨0xFF96, 0xFF9B, .shift (-52910) 1⟩, ⟨0xFF9C, 0xFF9C, .shift (-52909) 1⟩,
  ⟨0xFF9D, 0xFF9D, .shift (-52906) 1⟩, ⟨0xFF9E, 0xFF9F, .shift (-52997) 1⟩,
  ⟨0xFFA0, 0xFFA0, .ignored⟩, ⟨0xFFA1, 0xFFA2, .shift (-61089) 1⟩,
  ⟨0xFFA3, 0xFFA3, .shift (-60921) 1⟩, ⟨0xFFA4, 0xFFA4, .shift (-61090) 1⟩,
  ⟨0xFFA5, 0xFFA6, .shift (-60921) 1⟩, ⟨0xFFA7, 0xFFA9, .shift (-61092) 1⟩,
  ⟨0xFFAA, 0xFFAF, .shift (-60922) 1⟩, ⟨0xFFB0, 0xFFB0, .shift (-61078) 1⟩,
  ⟨0xFFB1, 0xFFB3, .shift (-61099) 1⟩, ⟨0xFFB4, 0xFFB4, .shift (-61075) 1⟩,
  ⟨0xFFB5, 0xFFBE, .shift (-61100) 1⟩, ⟨0xFFBF, 0xFFC1, .disallowed⟩,
  ⟨0xFFC2, 0xFFC7, .shift (-61025) 1⟩, ⟨0xFFC8, 0xFFC9, .disallowed⟩,
  ⟨0xFFCA, 0xFFCF, .shift (-61027) 1⟩, ⟨0xFFD0, 0xFFD1, .disallowed⟩,
  ⟨0xFFD2, 0xFFD7, .shift (-61029) 1⟩, ⟨0xFFD8, 0xFFD9, .disallowed⟩,
  ⟨0xFFDA, 0xFFDC, .shift (-61031) 1⟩, ⟨0xFFDD, 0xFFDF, .disallowed⟩,
  ⟨0xFFE0, 0xFFE1, .shift (-65342) 1⟩, ⟨0xFFE2, 0xFFE2, .shift (-65334) 1⟩,
  ⟨0xFFE3, 0xFFE3, .text [0x20, 0x304]⟩, ⟨0xFFE4, 0xFFE4, .shift (-65342) 1⟩,
  ⟨0xFFE5, 0xFFE5, .shift (-65344) 1⟩, ⟨0xFFE6, 0xFFE6, .shift (-57149) 1⟩,
  ⟨0xFFE7, 0xFFE7, .disallowed⟩, ⟨0xFFE8, 0xFFE8, .shift (-56038) 1⟩,
  ⟨0xFFE9, 0xFFEC, .shift (-56921) 1⟩, ⟨0xFFED, 0xFFED, .shift (-55885) 1⟩,
  ⟨0xFFEE, 0xFFEE, .shift (-55843) 1⟩, ⟨0xFFEF, 0xFFFF, .disallowed⟩,
  ⟨0x10000, 0x1000B, .valid⟩, ⟨0x1000C, 0x1000C, .disallowed⟩, ⟨0x1000D, 0x10026, .valid⟩,
  ⟨0x10027, 0x10027, .disallowed⟩, ⟨0x10028, 0x1003A, .valid⟩,
  ⟨0x1003B, 0x1003B, .disallowed⟩, ⟨0x1003C, 0x1003D, .valid⟩,
  ⟨0x1003E, 0x1003E, .disallowed⟩, ⟨0x1003F, 0x1004D, .valid⟩,
  ⟨0x1004E, 0x1004F, .disallowed⟩, ⟨0x10050, 0x1005D, .valid⟩,
  ⟨0x1005E, 0x1007F, .disallowed⟩, ⟨0x10080, 0x100FA, .valid⟩,
  ⟨0x100FB, 0x100FF, .disallowed⟩, ⟨0x10100, 0x10102, .valid⟩,
  ⟨0x10103, 0x10106, .disallowed⟩, ⟨0x10107, 0x10133, .valid⟩,
  ⟨0x10134, 0x10136, .disallowed⟩, ⟨0x10137, 0x1018E, .valid⟩,
  ⟨0x1018F, 0x1018F, .disallowed⟩, ⟨0x10190, 0x1019C, .valid⟩,
  ⟨0x1019D, 0x1019F, .disallowed⟩, ⟨0x101A0, 0x101A0, .valid⟩,
  ⟨0x101A1, 0x101CF, .disallowed⟩, ⟨0x101D0, 0x101FD, .valid⟩,
  ⟨0x101FE, 0x1027F, .disallowed⟩, ⟨0x10280, 0x1029C, .valid⟩,
  ⟨0x1029D, 0x1029F, .disallowed⟩, ⟨0x102A0, 0x102D0, .valid⟩,
  ⟨0x102D1, 0x102DF, .disallowed⟩, ⟨0x102E0, 0x102FB, .valid⟩,
  ⟨0x102FC, 0x102FF, .disallowed⟩, ⟨0x10300, 0x10323, .valid⟩,
  ⟨0x10324, 0x1032C, .disallowed⟩, ⟨0x1032D, 0x1034A, .valid⟩,
  ⟨0x1034B, 0x1034F, .disallowed⟩, ⟨0x10350, 0x1037A, .valid⟩,
  ⟨0x1037B, 0x1037F, .disallowed⟩, ⟨0x10380, 0x1039D, .valid⟩,
  ⟨0x1039E, 0x1039E, .disallowed⟩, ⟨0x1039F, 0x103C3, .valid⟩,
  ⟨0x103C4, 0x103C7, .disallowed⟩, ⟨0x103C8, 0x103D5, .valid⟩,
  ⟨0x103D6, 0x103FF, .disallowed⟩, ⟨0x10400, 0x10427, .shift 40 1⟩,
  ⟨0x10428, 0x1049D, .valid⟩, ⟨0x1049E, 0x1049F, .disallowed⟩, ⟨0x104A0, 0x104A9, .valid⟩,
  ⟨0x104AA, 0x104AF, .disallowed⟩, ⟨0x104B0, 0x104D3, .shift 40 1⟩,
  ⟨0x104D4, 0x104D7, .disallowed⟩, ⟨0x104D8, 0x104FB, .valid⟩,
  ⟨0x104FC, 0x104FF, .disallowed⟩, ⟨0x10500, 0x10527, .valid⟩,
  ⟨0x10528, 0x1052F, .disallowed⟩, ⟨0x10530, 0x10563, .valid⟩,
  ⟨0x10564, 0x1056E, .disallowed⟩, ⟨0x1056F, 0x1056F, .valid⟩,
  ⟨0x10570, 0x1057A, .shift 39 1⟩, ⟨0x1057B, 0x1057B, .disallowed⟩,
  ⟨0x1057C, 0x1058A, .shift 39 1⟩, ⟨0x1058B, 0x1058B, .disallowed⟩,
  ⟨0x1058C, 0x10592, .shift 39 1⟩, ⟨0x10593, 0x10593, .disallowed⟩,
  ⟨0x10594, 0x10595, .shift 39 1⟩, ⟨0x10596, 0x10596, .disallowed⟩,
  ⟨0x10597, 0x105A1, .valid⟩, ⟨0x105A2, 0x105A2, .disallowed⟩, ⟨0x105A3, 0x105B1, .valid⟩,
  ⟨0x105B2, 0x105B2, .disallowed⟩, ⟨0x105B3, 0x105B9, .valid⟩,
  ⟨0x105BA, 0x105BA, .disallowed⟩, ⟨0x105BB, 0x105BC, .valid⟩,
  ⟨0x105BD, 0x105BF, .disallowed⟩, ⟨0x105C0, 0x105F3, .valid⟩,
  ⟨0x105F4, 0x105FF, .disallowed⟩, ⟨0x10600, 0x10736, .valid⟩,
  ⟨0x10737, 0x1073F, .disallowed⟩, ⟨0x10740, 0x10755, .valid⟩,
  ⟨0x10756, 0x1075F, .disallowed⟩, ⟨0x10760, 0x10767, .valid⟩,
  ⟨0x10768, 0x1077F, .disallowed⟩, ⟨0x10780, 0x10780, .valid⟩,
  ⟨0x10781, 0x10782, .shift (-66737) 1⟩, ⟨0x10783, 0x10783, .shift (-67229) 1⟩,
  ⟨0x10784, 0x10784, .shift (-66795) 1⟩, ⟨0x10785, 0x10785, .shift (-66866) 1⟩,
  ⟨0x10786, 0x10786, .disallowed⟩, ⟨0x10787, 0x10787, .shift (-66788) 1⟩,
  ⟨0x10788, 0x10788, .shift (-23586) 1⟩, ⟨0x10789, 0x10789, .shift (-66788) 1⟩,
  ⟨0x1078A, 0x1078A, .shift (-66790) 1⟩, ⟨0x1078B, 0x1078C, .shift (-66869) 1⟩,
  ⟨0x1078D, 0x1078D, .shift (-59900) 1⟩, ⟨0x1078E, 0x1078E, .shift (-66870) 1⟩,
  ⟨0x1078F, 0x1078F, .shift (-66865) 1⟩, ⟨0x10790, 0x10790, .shift (-66791) 1⟩,
  ⟨0x10791, 0x10791, .shift (-66861) 1⟩, ⟨0x10792, 0x10792, .shift (-66864) 1⟩,
  ⟨0x10793, 0x10793, .shift (-66867) 1⟩, ⟨0x10794, 0x10794, .shift (-66809) 1⟩,
  ⟨0x10795, 0x10795, .shift (-67182) 1⟩, ⟨0x10796, 0x10796, .shift (-66810) 1⟩,
  ⟨0x10797, 0x10797, .shift (-66864) 1⟩, ⟨0x10798, 0x10798, .shift (-66836) 1⟩,
  ⟨0x10799, 0x1079A, .shift (-66799) 1⟩, ⟨0x1079B, 0x1079B, .shift (-66863) 1⟩,
  ⟨0x1079C, 0x1079C, .shift 55144 1⟩, ⟨0x1079D, 0x1079D, .shift (-24591) 1⟩,
  ⟨0x1079E, 0x1079E, .shift (-66864) 1⟩, ⟨0x1079F, 0x1079F, .shift 55142 1⟩,
  ⟨0x107A0, 0x107A0, .shift (-66834) 1⟩, ⟨0x107A1, 0x107A1, .shift 55141 1⟩,
  ⟨0x107A2, 0x107A2, .shift (-67242) 1⟩, ⟨0x107A3, 0x107A4, .shift (-66861) 1⟩,
  ⟨0x107A5, 0x107A5, .shift (-67380) 1⟩, ⟨0x107A6, 0x107A6, .shift (-66860) 1⟩,
  ⟨0x107A7, 0x107A7, .shift 55137 1⟩, ⟨0x107A8, 0x107A9, .shift (-66859) 1⟩,
  ⟨0x107AA, 0x107AA, .shift (-66858) 1⟩, ⟨0x107AB, 0x107AB, .shift (-66819) 1⟩,
  ⟨0x107AC, 0x107AC, .shift (-66822) 1⟩, ⟨0x107AD, 0x107AD, .shift (-23622) 1⟩,
  ⟨0x107AE, 0x107AE, .shift (-66823) 1⟩, ⟨0x107AF, 0x107AF, .shift (-66855) 1⟩,
  ⟨0x107B0, 0x107B0, .shift (-56127) 1⟩, ⟨0x107B1, 0x107B1, .disallowed⟩,
  ⟨0x107B2, 0x107B2, .shift (-66851) 1⟩, ⟨0x107B3, 0x107B4, .shift (-66834) 1⟩,
  ⟨0x107B5, 0x107B5, .shift (-66845) 1⟩, ⟨0x107B6, 0x107B8, .shift (-67062) 1⟩,
  ⟨0x107B9, 0x107B9, .shift 55121 1⟩, ⟨0x107BA, 0x107BA, .shift 55140 1⟩,
  ⟨0x107BB, 0x107FF, .disallowed⟩, ⟨0x10800, 0x10805, .valid⟩,
  ⟨0x10806, 0x10807, .disallowed⟩, ⟨0x10808, 0x10808, .valid⟩,
  ⟨0x10809, 0x10809, .disallowed⟩, ⟨0x1080A, 0x10835, .valid⟩,
  ⟨0x10836, 0x10836, .disallowed⟩, ⟨0x10837, 0x10838, .valid⟩,
  ⟨0x10839, 0x1083B, .disallowed⟩, ⟨0x1083C, 0x1083C, .valid⟩,
  ⟨0x1083D, 0x1083E, .disallowed⟩, ⟨0x1083F, 0x10855, .valid⟩,
  ⟨0x10856, 0x10856, .disallowed⟩, ⟨0x10857, 0x1089E, .valid⟩,
  ⟨0x1089F, 0x108A6, .disallowed⟩, ⟨0x108A7, 0x108AF, .valid⟩,
  ⟨0x108B0, 0x108DF, .disallowed⟩, ⟨0x108E0, 0x108F2, .valid⟩,
  ⟨0x108F3, 0x108F3, .disallowed⟩, ⟨0x108F4, 0x108F5, .valid⟩,
  ⟨0x108F6, 0x108FA, .disallowed⟩, ⟨0x108FB, 0x1091B, .valid⟩,
  ⟨0x1091C, 0x1091E, .disallowed⟩, ⟨0x1091F, 0x10939, .valid⟩,
  ⟨0x1093A, 0x1093E, .disallowed⟩, ⟨0x1093F, 0x10959, .valid⟩,
  ⟨0x1095A, 0x1097F, .disallowed⟩, ⟨0x10980, 0x109B7, .valid⟩,
  ⟨0x109B8, 0x109BB, .disallowed⟩, ⟨0x109BC, 0x109CF, .valid⟩,
  ⟨0x109D0, 0x109D1, .disallowed⟩, ⟨0x109D2, 0x10A03, .valid⟩,
  ⟨0x10A04, 0x10A04, .disallowed⟩, ⟨0x10A05, 0x10A06, .valid⟩,
  ⟨0x10A07, 0x10A0B, .disallowed⟩, ⟨0x10A0C, 0x10A13, .valid⟩,
  ⟨0x10A14, 0x10A14, .disallowed⟩, ⟨0x10A15, 0x10A17, .valid⟩,
  ⟨0x10A18, 0x10A18, .disallowed⟩, ⟨0x10A19, 0x10A35, .valid⟩,
  ⟨0x10A36, 0x10A37, .disallowed⟩, ⟨0x10A38, 0x10A3A, .valid⟩,
  ⟨0x10A3B, 0x10A3E, .disallowed⟩, ⟨0x10A3F, 0x10A48, .valid⟩,
  ⟨0x10A49, 0x10A4F, .disallowed⟩, ⟨0x10A50, 0x10A58, .valid⟩,
  ⟨0x10A59, 0x10A5F, .disallowed⟩, ⟨0x10A60, 0x10A9F, .valid⟩,
  ⟨0x10AA0, 0x10ABF, .disallowed⟩, ⟨0x10AC0, 0x10AE6, .valid⟩,
  ⟨0x10AE7, 0x10AEA, .disallowed⟩, ⟨0x10AEB, 0x10AF6, .valid⟩,
  ⟨0x10AF7, 0x10AFF, .disallowed⟩, ⟨0x10B00, 0x10B35, .valid⟩,
  ⟨0x10B36, 0x10B38, .disallowed⟩, ⟨0x10B39, 0x10B55, .valid⟩,
  ⟨0x10B56, 0x10B57, .disallowed⟩, ⟨0x10B58, 0x10B72, .valid⟩,
  ⟨0x10B73, 0x10B77, .disallowed⟩, ⟨0x10B78, 0x10B91, .valid⟩,
  ⟨0x10B92, 0x10B98, .disallowed⟩, ⟨0x10B99, 0x10B9C, .valid⟩,
  ⟨0x10B9D, 0x10BA8, .disallowed⟩, ⟨0x10BA9, 0x10BAF, .valid⟩,
  ⟨0x10BB0, 0x10BFF, .disallowed⟩, ⟨0x10C00, 0x10C48, .valid⟩,
  ⟨0x10C49, 0x10C7F, .disallowed⟩, ⟨0x10C80, 0x10CB2, .shift 64 1⟩,
  ⟨0x10CB3, 0x10CBF, .disallowed⟩, ⟨0x10CC0, 0x10CF2, .valid⟩,
  ⟨0x10CF3, 0x10CF9, .disallowed⟩, ⟨0x10CFA, 0x10D27, .valid⟩,
  ⟨0x10D28, 0x10D2F, .disallowed⟩, ⟨0x10D30, 0x10D39, .valid⟩,
  ⟨0x10D3A, 0x10D3F, .disallowed⟩, ⟨0x10D40, 0x10D4F, .valid⟩,
  ⟨0x10D50, 0x10D65, .shift 32 1⟩, ⟨0x10D66, 0x10D68, .disallowed⟩,
  ⟨0x10D69, 0x10D85, .valid⟩, ⟨0x10D86, 0x10D8D, .disallowed⟩, ⟨0x10D8E, 0x10D8F, .valid⟩,
  ⟨0x10D90, 0x10E5F, .disallowed⟩, ⟨0x10E60, 0x10E7E, .valid⟩,
  ⟨0x10E7F, 0x10E7F, .disallowed⟩, ⟨0x10E80, 0x10EA9, .valid⟩,
  ⟨0x10EAA, 0x10EAA, .disallowed⟩, ⟨0x10EAB, 0x10EAD, .valid⟩,
  ⟨0x10EAE, 0x10EAF, .disallowed⟩, ⟨0x10EB0, 0x10EB1, .valid⟩,
  ⟨0x10EB2, 0x10EC1, .disallowed⟩, ⟨0x10EC2, 0x10EC7, .valid⟩,
  ⟨0x10EC8, 0x10ECF, .disallowed⟩, ⟨0x10ED0, 0x10ED8, .valid⟩,
  ⟨0x10ED9, 0x10EF9, .disallowed⟩, ⟨0x10EFA, 0x10F27, .valid⟩,
  ⟨0x10F28, 0x10F2F, .disallowed⟩, ⟨0x10F30, 0x10F59, .valid⟩]

/-- The runs from U+10F5A to U+1DEFF. -/
def runsFrom10F5A : List Run := [
  ⟨0x10F5A, 0x10F6F, .disallowed⟩, ⟨0x10F70, 0x10F89, .valid⟩,
  ⟨0x10F8A, 0x10FAF, .disallowed⟩, ⟨0x10FB0, 0x10FCB, .valid⟩,
  ⟨0x10FCC, 0x10FDF, .disallowed⟩, ⟨0x10FE0, 0x10FF6, .valid⟩,
  ⟨0x10FF7, 0x10FFF, .disallowed⟩, ⟨0x11000, 0x1104D, .valid⟩,
  ⟨0x1104E, 0x11051, .disallowed⟩, ⟨0x11052, 0x11075, .valid⟩,
  ⟨0x11076, 0x1107E, .disallowed⟩, ⟨0x1107F, 0x110BC, .valid⟩,
  ⟨0x110BD, 0x110BD, .disallowed⟩, ⟨0x110BE, 0x110C2, .valid⟩,
  ⟨0x110C3, 0x110CF, .disallowed⟩, ⟨0x110D0, 0x110E8, .valid⟩,
  ⟨0x110E9, 0x110EF, .disallowed⟩, ⟨0x110F0, 0x110F9, .valid⟩,
  ⟨0x110FA, 0x110FF, .disallowed⟩, ⟨0x11100, 0x11134, .valid⟩,
  ⟨0x11135, 0x11135, .disallowed⟩, ⟨0x11136, 0x11147, .valid⟩,
  ⟨0x11148, 0x1114F, .disallowed⟩, ⟨0x11150, 0x11176, .valid⟩,
  ⟨0x11177, 0x1117F, .disallowed⟩, ⟨0x11180, 0x111DF, .valid⟩,
  ⟨0x111E0, 0x111E0, .disallowed⟩, ⟨0x111E1, 0x111F4, .valid⟩,
  ⟨0x111F5, 0x111FF, .disallowed⟩, ⟨0x11200, 0x11211, .valid⟩,
  ⟨0x11212, 0x11212, .disallowed⟩, ⟨0x11213, 0x11241, .valid⟩,
  ⟨0x11242, 0x1127F, .disallowed⟩, ⟨0x11280, 0x11286, .valid⟩,
  ⟨0x11287, 0x11287, .disallowed⟩, ⟨0x11288, 0x11288, .valid⟩,
  ⟨0x11289, 0x11289, .disallowed⟩, ⟨0x1128A, 0x1128D, .valid⟩,
  ⟨0x1128E, 0x1128E, .disallowed⟩, ⟨0x1128F, 0x1129D, .valid⟩,
  ⟨0x1129E, 0x1129E, .disallowed⟩, ⟨0x1129F, 0x112A9, .valid⟩,
  ⟨0x112AA, 0x112AF, .disallowed⟩, ⟨0x112B0, 0x112EA, .valid⟩,
  ⟨0x112EB, 0x112EF, .disallowed⟩, ⟨0x112F0, 0x112F9, .valid⟩,
  ⟨0x112FA, 0x112FF, .disallowed⟩, ⟨0x11300, 0x11303, .valid⟩,
  ⟨0x11304, 0x11304, .disallowed⟩, ⟨0x11305, 0x1130C, .valid⟩,
  ⟨0x1130D, 0x1130E, .disallowed⟩, ⟨0x1130F, 0x11310, .valid⟩,
  ⟨0x11311, 0x11312, .disallowed⟩, ⟨0x11313, 0x11328, .valid⟩,
  ⟨0x11329, 0x11329, .disallowed⟩, ⟨0x1132A, 0x11330, .valid⟩,
  ⟨0x11331, 0x11331, .disallowed⟩, ⟨0x11332, 0x11333, .valid⟩,
  ⟨0x11334, 0x11334, .disallowed⟩, ⟨0x11335, 0x11339, .valid⟩,
  ⟨0x1133A, 0x1133A, .disallowed⟩, ⟨0x1133B, 0x11344, .valid⟩,
  ⟨0x11345, 0x11346, .disallowed⟩, ⟨0x11347, 0x11348, .valid⟩,
  ⟨0x11349, 0x1134A, .disallowed⟩, ⟨0x1134B, 0x1134D, .valid⟩,
  ⟨0x1134E, 0x1134F, .disallowed⟩, ⟨0x11350, 0x11350, .valid⟩,
  ⟨0x11351, 0x11356, .disallowed⟩, ⟨0x11357, 0x11357, .valid⟩,
  ⟨0x11358, 0x1135C, .disallowed⟩, ⟨0x1135D, 0x11363, .valid⟩,
  ⟨0x11364, 0x11365, .disallowed⟩, ⟨0x11366, 0x1136C, .valid⟩,
  ⟨0x1136D, 0x1136F, .disallowed⟩, ⟨0x11370, 0x11374, .valid⟩,
  ⟨0x11375, 0x1137F, .disallowed⟩, ⟨0x11380, 0x11389, .valid⟩,
  ⟨0x1138A, 0x1138A, .disallowed⟩, ⟨0x1138B, 0x1138B, .valid⟩,
  ⟨0x1138C, 0x1138D, .disallowed⟩, ⟨0x1138E, 0x1138E, .valid⟩,
  ⟨0x1138F, 0x1138F, .disallowed⟩, ⟨0x11390, 0x113B5, .valid⟩,
  ⟨0x113B6, 0x113B6, .disallowed⟩, ⟨0x113B7, 0x113C0, .valid⟩,
  ⟨0x113C1, 0x113C1, .disallowed⟩, ⟨0x113C2, 0x113C2, .valid⟩,
  ⟨0x113C3, 0x113C4, .disallowed⟩, ⟨0x113C5, 0x113C5, .valid⟩,
  ⟨0x113C6, 0x113C6, .disallowed⟩, ⟨0x113C7, 0x113CA, .valid⟩,
  ⟨0x113CB, 0x113CB, .disallowed⟩, ⟨0x113CC, 0x113D5, .valid⟩,
  ⟨0x113D6, 0x113D6, .disallowed⟩, ⟨0x113D7, 0x113D8, .valid⟩,
  ⟨0x113D9, 0x113E0, .disallowed⟩, ⟨0x113E1, 0x113E2, .valid⟩,
  ⟨0x113E3, 0x113FF, .disallowed⟩, ⟨0x11400, 0x1145B, .valid⟩,
  ⟨0x1145C, 0x1145C, .disallowed⟩, ⟨0x1145D, 0x11461, .valid⟩,
  ⟨0x11462, 0x1147F, .disallowed⟩, ⟨0x11480, 0x114C7, .valid⟩,
  ⟨0x114C8, 0x114CF, .disallowed⟩, ⟨0x114D0, 0x114D9, .valid⟩,
  ⟨0x114DA, 0x1157F, .disallowed⟩, ⟨0x11580, 0x115B5, .valid⟩,
  ⟨0x115B6, 0x115B7, .disallowed⟩, ⟨0x115B8, 0x115DD, .valid⟩,
  ⟨0x115DE, 0x115FF, .disallowed⟩, ⟨0x11600, 0x11644, .valid⟩,
  ⟨0x11645, 0x1164F, .disallowed⟩, ⟨0x11650, 0x11659, .valid⟩,
  ⟨0x1165A, 0x1165F, .disallowed⟩, ⟨0x11660, 0x1166C, .valid⟩,
  ⟨0x1166D, 0x1167F, .disallowed⟩, ⟨0x11680, 0x116B9, .valid⟩,
  ⟨0x116BA, 0x116BF, .disallowed⟩, ⟨0x116C0, 0x116C9, .valid⟩,
  ⟨0x116CA, 0x116CF, .disallowed⟩, ⟨0x116D0, 0x116E3, .valid⟩,
  ⟨0x116E4, 0x116FF, .disallowed⟩, ⟨0x11700, 0x1171A, .valid⟩,
  ⟨0x1171B, 0x1171C, .disallowed⟩, ⟨0x1171D, 0x1172B, .valid⟩,
  ⟨0x1172C, 0x1172F, .disallowed⟩, ⟨0x11730, 0x11746, .valid⟩,
  ⟨0x11747, 0x117FF, .disallowed⟩, ⟨0x11800, 0x1183B, .valid⟩,
  ⟨0x1183C, 0x1189F, .disallowed⟩, ⟨0x118A0, 0x118BF, .shift 32 1⟩,
  ⟨0x118C0, 0x118F2, .valid⟩, ⟨0x118F3, 0x118FE, .disallowed⟩, ⟨0x118FF, 0x11906, .valid⟩,
  ⟨0x11907, 0x11908, .disallowed⟩, ⟨0x11909, 0x11909, .valid⟩,
  ⟨0x1190A, 0x1190B, .disallowed⟩, ⟨0x1190C, 0x11913, .valid⟩,
  ⟨0x11914, 0x11914, .disallowed⟩, ⟨0x11915, 0x11916, .valid⟩,
  ⟨0x11917, 0x11917, .disallowed⟩, ⟨0x11918, 0x11935, .valid⟩,
  ⟨0x11936, 0x11936, .disallowed⟩, ⟨0x11937, 0x11938, .valid⟩,
  ⟨0x11939, 0x1193A, .disallowed⟩, ⟨0x1193B, 0x11946, .valid⟩,
  ⟨0x11947, 0x1194F, .disallowed⟩, ⟨0x11950, 0x11959, .valid⟩,
  ⟨0x1195A, 0x1199F, .disallowed⟩, ⟨0x119A0, 0x119A7, .valid⟩,
  ⟨0x119A8, 0x119A9, .disallowed⟩, ⟨0x119AA, 0x119D7, .valid⟩,
  ⟨0x119D8, 0x119D9, .disallowed⟩, ⟨0x119DA, 0x119E4, .valid⟩,
  ⟨0x119E5, 0x119FF, .disallowed⟩, ⟨0x11A00, 0x11A47, .valid⟩,
  ⟨0x11A48, 0x11A4F, .disallowed⟩, ⟨0x11A50, 0x11AA2, .valid⟩,
  ⟨0x11AA3, 0x11AAF, .disallowed⟩, ⟨0x11AB0, 0x11AF8, .valid⟩,
  ⟨0x11AF9, 0x11AFF, .disallowed⟩, ⟨0x11B00, 0x11B09, .valid⟩,
  ⟨0x11B0A, 0x11B5F, .disallowed⟩, ⟨0x11B60, 0x11B67, .valid⟩,
  ⟨0x11B68, 0x11BBF, .disallowed⟩, ⟨0x11BC0, 0x11BE1, .valid⟩,
  ⟨0x11BE2, 0x11BEF, .disallowed⟩, ⟨0x11BF0, 0x11BF9, .valid⟩,
  ⟨0x11BFA, 0x11BFF, .disallowed⟩, ⟨0x11C00, 0x11C08, .valid⟩,
  ⟨0x11C09, 0x11C09, .disallowed⟩, ⟨0x11C0A, 0x11C36, .valid⟩,
  ⟨0x11C37, 0x11C37, .disallowed⟩, ⟨0x11C38, 0x11C45, .valid⟩,
  ⟨0x11C46, 0x11C4F, .disallowed⟩, ⟨0x11C50, 0x11C6C, .valid⟩,
  ⟨0x11C6D, 0x11C6F, .disallowed⟩, ⟨0x11C70, 0x11C8F, .valid⟩,
  ⟨0x11C90, 0x11C91, .disallowed⟩, ⟨0x11C92, 0x11CA7, .valid⟩,
  ⟨0x11CA8, 0x11CA8, .disallowed⟩, ⟨0x11CA9, 0x11CB6, .valid⟩,
  ⟨0x11CB7, 0x11CFF, .disallowed⟩, ⟨0x11D00, 0x11D06, .valid⟩,
  ⟨0x11D07, 0x11D07, .disallowed⟩, ⟨0x11D08, 0x11D09, .valid⟩,
  ⟨0x11D0A, 0x11D0A, .disallowed⟩, ⟨0x11D0B, 0x11D36, .valid⟩,
  ⟨0x11D37, 0x11D39, .disallowed⟩, ⟨0x11D3A, 0x11D3A, .valid⟩,
  ⟨0x11D3B, 0x11D3B, .disallowed⟩, ⟨0x11D3C, 0x11D3D, .valid⟩,
  ⟨0x11D3E, 0x11D3E, .disallowed⟩, ⟨0x11D3F, 0x11D47, .valid⟩,
  ⟨0x11D48, 0x11D4F, .disallowed⟩, ⟨0x11D50, 0x11D59, .valid⟩,
  ⟨0x11D5A, 0x11D5F, .disallowed⟩, ⟨0x11D60, 0x11D65, .valid⟩,
  ⟨0x11D66, 0x11D66, .disallowed⟩, ⟨0x11D67, 0x11D68, .valid⟩,
  ⟨0x11D69, 0x11D69, .disallowed⟩, ⟨0x11D6A, 0x11D8E, .valid⟩,
  ⟨0x11D8F, 0x11D8F, .disallowed⟩, ⟨0x11D90, 0x11D91, .valid⟩,
  ⟨0x11D92, 0x11D92, .disallowed⟩, ⟨0x11D93, 0x11D98, .valid⟩,
  ⟨0x11D99, 0x11D9F, .disallowed⟩, ⟨0x11DA0, 0x11DA9, .valid⟩,
  ⟨0x11DAA, 0x11DAF, .disallowed⟩, ⟨0x11DB0, 0x11DDB, .valid⟩,
  ⟨0x11DDC, 0x11DDF, .disallowed⟩, ⟨0x11DE0, 0x11DE9, .valid⟩,
  ⟨0x11DEA, 0x11EDF, .disallowed⟩, ⟨0x11EE0, 0x11EF8, .valid⟩,
  ⟨0x11EF9, 0x11EFF, .disallowed⟩, ⟨0x11F00, 0x11F10, .valid⟩,
  ⟨0x11F11, 0x11F11, .disallowed⟩, ⟨0x11F12, 0x11F3A, .valid⟩,
  ⟨0x11F3B, 0x11F3D, .disallowed⟩, ⟨0x11F3E, 0x11F5A, .valid⟩,
  ⟨0x11F5B, 0x11FAF, .disallowed⟩, ⟨0x11FB0, 0x11FB0, .valid⟩,
  ⟨0x11FB1, 0x11FBF, .disallowed⟩, ⟨0x11FC0, 0x11FF1, .valid⟩,
  ⟨0x11FF2, 0x11FFE, .disallowed⟩, ⟨0x11FFF, 0x12399, .valid⟩,
  ⟨0x1239A, 0x123FF, .disallowed⟩, ⟨0x12400, 0x1246E, .valid⟩,
  ⟨0x1246F, 0x1246F, .disallowed⟩, ⟨0x12470, 0x12474, .valid⟩,
  ⟨0x12475, 0x1247F, .disallowed⟩, ⟨0x12480, 0x12543, .valid⟩,
  ⟨0x12544, 0x12F8F, .disallowed⟩, ⟨0x12F90, 0x12FF2, .valid⟩,
  ⟨0x12FF3, 0x12FFF, .disallowed⟩, ⟨0x13000, 0x1342F, .valid⟩,
  ⟨0x13430, 0x1343F, .disallowed⟩, ⟨0x13440, 0x13455, .valid⟩,
  ⟨0x13456, 0x1345F, .disallowed⟩, ⟨0x13460, 0x143FA, .valid⟩,
  ⟨0x143FB, 0x143FF, .disallowed⟩, ⟨0x14400, 0x14646, .valid⟩,
  ⟨0x14647, 0x160FF, .disallowed⟩, ⟨0x16100, 0x16139, .valid⟩,
  ⟨0x1613A, 0x167FF, .disallowed⟩, ⟨0x16800, 0x16A38, .valid⟩,
  ⟨0x16A39, 0x16A3F, .disallowed⟩, ⟨0x16A40, 0x16A5E, .valid⟩,
  ⟨0x16A5F, 0x16A5F, .disallowed⟩, ⟨0x16A60, 0x16A69, .valid⟩,
  ⟨0x16A6A, 0x16A6D, .disallowed⟩, ⟨0x16A6E, 0x16ABE, .valid⟩,
  ⟨0x16ABF, 0x16ABF, .disallowed⟩, ⟨0x16AC0, 0x16AC9, .valid⟩,
  ⟨0x16ACA, 0x16ACF, .disallowed⟩, ⟨0x16AD0, 0x16AED, .valid⟩,
  ⟨0x16AEE, 0x16AEF, .disallowed⟩, ⟨0x16AF0, 0x16AF5, .valid⟩,
  ⟨0x16AF6, 0x16AFF, .disallowed⟩, ⟨0x16B00, 0x16B45, .valid⟩,
  ⟨0x16B46, 0x16B4F, .disallowed⟩, ⟨0x16B50, 0x16B59, .valid⟩,
  ⟨0x16B5A, 0x16B5A, .disallowed⟩, ⟨0x16B5B, 0x16B61, .valid⟩,
  ⟨0x16B62, 0x16B62, .disallowed⟩, ⟨0x16B63, 0x16B77, .valid⟩,
  ⟨0x16B78, 0x16B7C, .disallowed⟩, ⟨0x16B7D, 0x16B8F, .valid⟩,
  ⟨0x16B90, 0x16D3F, .disallowed⟩, ⟨0x16D40, 0x16D79, .valid⟩,
  ⟨0x16D7A, 0x16E3F, .disallowed⟩, ⟨0x16E40, 0x16E5F, .shift 32 1⟩,
  ⟨0x16E60, 0x16E9A, .valid⟩, ⟨0x16E9B, 0x16E9F, .disallowed⟩,
  ⟨0x16EA0, 0x16EB8, .shift 27 1⟩, ⟨0x16EB9, 0x16EBA, .disallowed⟩,
  ⟨0x16EBB, 0x16ED3, .valid⟩, ⟨0x16ED4, 0x16EFF, .disallowed⟩, ⟨0x16F00, 0x16F4A, .valid⟩,
  ⟨0x16F4B, 0x16F4E, .disallowed⟩, ⟨0x16F4F, 0x16F87, .valid⟩,
  ⟨0x16F88, 0x16F8E, .disallowed⟩, ⟨0x16F8F, 0x16F9F, .valid⟩,
  ⟨0x16FA0, 0x16FDF, .disallowed⟩, ⟨0x16FE0, 0x16FE4, .valid⟩,
  ⟨0x16FE5, 0x16FEF, .disallowed⟩, ⟨0x16FF0, 0x16FF6, .valid⟩,
  ⟨0x16FF7, 0x16FFF, .disallowed⟩, ⟨0x17000, 0x18CD5, .valid⟩,
  ⟨0x18CD6, 0x18CFE, .disallowed⟩, ⟨0x18CFF, 0x18D1E, .valid⟩,
  ⟨0x18D1F, 0x18D7F, .disallowed⟩, ⟨0x18D80, 0x18DF2, .valid⟩,
  ⟨0x18DF3, 0x1AFEF, .disallowed⟩, ⟨0x1AFF0, 0x1AFF3, .valid⟩,
  ⟨0x1AFF4, 0x1AFF4, .disallowed⟩, ⟨0x1AFF5, 0x1AFFB, .valid⟩,
  ⟨0x1AFFC, 0x1AFFC, .disallowed⟩, ⟨0x1AFFD, 0x1AFFE, .valid⟩,
  ⟨0x1AFFF, 0x1AFFF, .disallowed⟩, ⟨0x1B000, 0x1B122, .valid⟩,
  ⟨0x1B123, 0x1B131, .disallowed⟩, ⟨0x1B132, 0x1B132, .valid⟩,
  ⟨0x1B133, 0x1B14F, .disallowed⟩, ⟨0x1B150, 0x1B152, .valid⟩,
  ⟨0x1B153, 0x1B154, .disallowed⟩, ⟨0x1B155, 0x1B155, .valid⟩,
  ⟨0x1B156, 0x1B163, .disallowed⟩, ⟨0x1B164, 0x1B167, .valid⟩,
  ⟨0x1B168, 0x1B16F, .disallowed⟩, ⟨0x1B170, 0x1B2FB, .valid⟩,
  ⟨0x1B2FC, 0x1BBFF, .disallowed⟩, ⟨0x1BC00, 0x1BC6A, .valid⟩,
  ⟨0x1BC6B, 0x1BC6F, .disallowed⟩, ⟨0x1BC70, 0x1BC7C, .valid⟩,
  ⟨0x1BC7D, 0x1BC7F, .disallowed⟩, ⟨0x1BC80, 0x1BC88, .valid⟩,
  ⟨0x1BC89, 0x1BC8F, .disallowed⟩, ⟨0x1BC90, 0x1BC99, .valid⟩,
  ⟨0x1BC9A, 0x1BC9B, .disallowed⟩, ⟨0x1BC9C, 0x1BC9F, .valid⟩, ⟨0x1BCA0, 0x1BCA3, .ignored⟩,
  ⟨0x1BCA4, 0x1CBFF, .disallowed⟩, ⟨0x1CC00, 0x1CCD5, .valid⟩,
  ⟨0x1CCD6, 0x1CCEF, .shift (-117877) 1⟩, ⟨0x1CCF0, 0x1CCF9, .shift (-117952) 1⟩,
  ⟨0x1CCFA, 0x1CCFC, .valid⟩, ⟨0x1CCFD, 0x1CCFF, .disallowed⟩, ⟨0x1CD00, 0x1CEB3, .valid⟩,
  ⟨0x1CEB4, 0x1CEB9, .disallowed⟩, ⟨0x1CEBA, 0x1CED0, .valid⟩,
  ⟨0x1CED1, 0x1CEDF, .disallowed⟩, ⟨0x1CEE0, 0x1CEF0, .valid⟩,
  ⟨0x1CEF1, 0x1CEFF, .disallowed⟩, ⟨0x1CF00, 0x1CF2D, .valid⟩,
  ⟨0x1CF2E, 0x1CF2F, .disallowed⟩, ⟨0x1CF30, 0x1CF46, .valid⟩,
  ⟨0x1CF47, 0x1CF4F, .disallowed⟩, ⟨0x1CF50, 0x1CFC3, .valid⟩,
  ⟨0x1CFC4, 0x1CFFF, .disallowed⟩, ⟨0x1D000, 0x1D0F5, .valid⟩,
  ⟨0x1D0F6, 0x1D0FF, .disallowed⟩, ⟨0x1D100, 0x1D126, .valid⟩,
  ⟨0x1D127, 0x1D128, .disallowed⟩, ⟨0x1D129, 0x1D15D, .valid⟩,
  ⟨0x1D15E, 0x1D15E, .text [0x1D157, 0x1D165]⟩,
  ⟨0x1D15F, 0x1D15F, .text [0x1D158, 0x1D165]⟩,
  ⟨0x1D160, 0x1D160, .text [0x1D158, 0x1D165, 0x1D16E]⟩,
  ⟨0x1D161, 0x1D161, .text [0x1D158, 0x1D165, 0x1D16F]⟩,
  ⟨0x1D162, 0x1D162, .text [0x1D158, 0x1D165, 0x1D170]⟩,
  ⟨0x1D163, 0x1D163, .text [0x1D158, 0x1D165, 0x1D171]⟩,
  ⟨0x1D164, 0x1D164, .text [0x1D158, 0x1D165, 0x1D172]⟩, ⟨0x1D165, 0x1D172, .valid⟩,
  ⟨0x1D173, 0x1D17A, .ignored⟩, ⟨0x1D17B, 0x1D1BA, .valid⟩,
  ⟨0x1D1BB, 0x1D1BB, .text [0x1D1B9, 0x1D165]⟩,
  ⟨0x1D1BC, 0x1D1BC, .text [0x1D1BA, 0x1D165]⟩,
  ⟨0x1D1BD, 0x1D1BD, .text [0x1D1B9, 0x1D165, 0x1D16E]⟩,
  ⟨0x1D1BE, 0x1D1BE, .text [0x1D1BA, 0x1D165, 0x1D16E]⟩,
  ⟨0x1D1BF, 0x1D1BF, .text [0x1D1B9, 0x1D165, 0x1D16F]⟩,
  ⟨0x1D1C0, 0x1D1C0, .text [0x1D1BA, 0x1D165, 0x1D16F]⟩, ⟨0x1D1C1, 0x1D1EA, .valid⟩,
  ⟨0x1D1EB, 0x1D1FF, .disallowed⟩, ⟨0x1D200, 0x1D245, .valid⟩,
  ⟨0x1D246, 0x1D2BF, .disallowed⟩, ⟨0x1D2C0, 0x1D2D3, .valid⟩,
  ⟨0x1D2D4, 0x1D2DF, .disallowed⟩, ⟨0x1D2E0, 0x1D2F3, .valid⟩,
  ⟨0x1D2F4, 0x1D2FF, .disallowed⟩, ⟨0x1D300, 0x1D356, .valid⟩,
  ⟨0x1D357, 0x1D35F, .disallowed⟩, ⟨0x1D360, 0x1D378, .valid⟩,
  ⟨0x1D379, 0x1D3FF, .disallowed⟩, ⟨0x1D400, 0x1D419, .shift (-119711) 1⟩,
  ⟨0x1D41A, 0x1D433, .shift (-119737) 1⟩, ⟨0x1D434, 0x1D44D, .shift (-119763) 1⟩,
  ⟨0x1D44E, 0x1D454, .shift (-119789) 1⟩, ⟨0x1D455, 0x1D455, .disallowed⟩,
  ⟨0x1D456, 0x1D467, .shift (-119789) 1⟩, ⟨0x1D468, 0x1D481, .shift (-119815) 1⟩,
  ⟨0x1D482, 0x1D49B, .shift (-119841) 1⟩, ⟨0x1D49C, 0x1D49C, .shift (-119867) 1⟩,
  ⟨0x1D49D, 0x1D49D, .disallowed⟩, ⟨0x1D49E, 0x1D49F, .shift (-119867) 1⟩,
  ⟨0x1D4A0, 0x1D4A1, .disallowed⟩, ⟨0x1D4A2, 0x1D4A2, .shift (-119867) 1⟩,
  ⟨0x1D4A3, 0x1D4A4, .disallowed⟩, ⟨0x1D4A5, 0x1D4A6, .shift (-119867) 1⟩,
  ⟨0x1D4A7, 0x1D4A8, .disallowed⟩, ⟨0x1D4A9, 0x1D4AC, .shift (-119867) 1⟩,
  ⟨0x1D4AD, 0x1D4AD, .disallowed⟩, ⟨0x1D4AE, 0x1D4B5, .shift (-119867) 1⟩,
  ⟨0x1D4B6, 0x1D4B9, .shift (-119893) 1⟩, ⟨0x1D4BA, 0x1D4BA, .disallowed⟩,
  ⟨0x1D4BB, 0x1D4BB, .shift (-119893) 1⟩, ⟨0x1D4BC, 0x1D4BC, .disallowed⟩,
  ⟨0x1D4BD, 0x1D4C3, .shift (-119893) 1⟩, ⟨0x1D4C4, 0x1D4C4, .disallowed⟩,
  ⟨0x1D4C5, 0x1D4CF, .shift (-119893) 1⟩, ⟨0x1D4D0, 0x1D4E9, .shift (-119919) 1⟩,
  ⟨0x1D4EA, 0x1D503, .shift (-119945) 1⟩, ⟨0x1D504, 0x1D505, .shift (-119971) 1⟩,
  ⟨0x1D506, 0x1D506, .disallowed⟩, ⟨0x1D507, 0x1D50A, .shift (-119971) 1⟩,
  ⟨0x1D50B, 0x1D50C, .disallowed⟩, ⟨0x1D50D, 0x1D514, .shift (-119971) 1⟩,
  ⟨0x1D515, 0x1D515, .disallowed⟩, ⟨0x1D516, 0x1D51C, .shift (-119971) 1⟩,
  ⟨0x1D51D, 0x1D51D, .disallowed⟩, ⟨0x1D51E, 0x1D537, .shift (-119997) 1⟩,
  ⟨0x1D538, 0x1D539, .shift (-120023) 1⟩, ⟨0x1D53A, 0x1D53A, .disallowed⟩,
  ⟨0x1D53B, 0x1D53E, .shift (-120023) 1⟩, ⟨0x1D53F, 0x1D53F, .disallowed⟩,
  ⟨0x1D540, 0x1D544, .shift (-120023) 1⟩, ⟨0x1D545, 0x1D545, .disallowed⟩,
  ⟨0x1D546, 0x1D546, .shift (-120023) 1⟩, ⟨0x1D547, 0x1D549, .disallowed⟩,
  ⟨0x1D54A, 0x1D550, .shift (-120023) 1⟩, ⟨0x1D551, 0x1D551, .disallowed⟩,
  ⟨0x1D552, 0x1D56B, .shift (-120049) 1⟩, ⟨0x1D56C, 0x1D585, .shift (-120075) 1⟩,
  ⟨0x1D586, 0x1D59F, .shift (-120101) 1⟩, ⟨0x1D5A0, 0x1D5B9, .shift (-120127) 1⟩,
  ⟨0x1D5BA, 0x1D5D3, .shift (-120153) 1⟩, ⟨0x1D5D4, 0x1D5ED, .shift (-120179) 1⟩,
  ⟨0x1D5EE, 0x1D607, .shift (-120205) 1⟩, ⟨0x1D608, 0x1D621, .shift (-120231) 1⟩,
  ⟨0x1D622, 0x1D63B, .shift (-120257) 1⟩, ⟨0x1D63C, 0x1D655, .shift (-120283) 1⟩,
  ⟨0x1D656, 0x1D66F, .shift (-120309) 1⟩, ⟨0x1D670, 0x1D689, .shift (-120335) 1⟩,
  ⟨0x1D68A, 0x1D6A3, .shift (-120361) 1⟩, ⟨0x1D6A4, 0x1D6A4, .shift (-120179) 1⟩,
  ⟨0x1D6A5, 0x1D6A5, .shift (-119918) 1⟩, ⟨0x1D6A6, 0x1D6A7, .disallowed⟩,
  ⟨0x1D6A8, 0x1D6B8, .shift (-119543) 1⟩, ⟨0x1D6B9, 0x1D6B9, .shift (-119553) 1⟩,
  ⟨0x1D6BA, 0x1D6C0, .shift (-119543) 1⟩, ⟨0x1D6C1, 0x1D6C1, .shift (-111802) 1⟩,
  ⟨0x1D6C2, 0x1D6D2, .shift (-119569) 1⟩, ⟨0x1D6D3, 0x1D6D4, .text [0x3C3]⟩,
  ⟨0x1D6D5, 0x1D6DA, .shift (-119569) 1⟩, ⟨0x1D6DB, 0x1D6DB, .shift (-111833) 1⟩,
  ⟨0x1D6DC, 0x1D6DC, .shift (-119591) 1⟩, ⟨0x1D6DD, 0x1D6DD, .shift (-119589) 1⟩,
  ⟨0x1D6DE, 0x1D6DE, .shift (-119588) 1⟩, ⟨0x1D6DF, 0x1D6DF, .shift (-119577) 1⟩,
  ⟨0x1D6E0, 0x1D6E0, .shift (-119583) 1⟩, ⟨0x1D6E1, 0x1D6E1, .shift (-119585) 1⟩,
  ⟨0x1D6E2, 0x1D6F2, .shift (-119601) 1⟩, ⟨0x1D6F3, 0x1D6F3, .shift (-119611) 1⟩,
  ⟨0x1D6F4, 0x1D6FA, .shift (-119601) 1⟩, ⟨0x1D6FB, 0x1D6FB, .shift (-111860) 1⟩,
  ⟨0x1D6FC, 0x1D70C, .shift (-119627) 1⟩, ⟨0x1D70D, 0x1D70E, .text [0x3C3]⟩,
  ⟨0x1D70F, 0x1D714, .shift (-119627) 1⟩, ⟨0x1D715, 0x1D715, .shift (-111891) 1⟩,
  ⟨0x1D716, 0x1D716, .shift (-119649) 1⟩, ⟨0x1D717, 0x1D717, .shift (-119647) 1⟩,
  ⟨0x1D718, 0x1D718, .shift (-119646) 1⟩, ⟨0x1D719, 0x1D719, .shift (-119635) 1⟩,
  ⟨0x1D71A, 0x1D71A, .shift (-119641) 1⟩, ⟨0x1D71B, 0x1D71B, .shift (-119643) 1⟩,
  ⟨0x1D71C, 0x1D72C, .shift (-119659) 1⟩, ⟨0x1D72D, 0x1D72D, .shift (-119669) 1⟩,
  ⟨0x1D72E, 0x1D734, .shift (-119659) 1⟩, ⟨0x1D735, 0x1D735, .shift (-111918) 1⟩,
  ⟨0x1D736, 0x1D746, .shift (-119685) 1⟩, ⟨0x1D747, 0x1D748, .text [0x3C3]⟩,
  ⟨0x1D749, 0x1D74E, .shift (-119685) 1⟩, ⟨0x1D74F, 0x1D74F, .shift (-111949) 1⟩,
  ⟨0x1D750, 0x1D750, .shift (-119707) 1⟩, ⟨0x1D751, 0x1D751, .shift (-119705) 1⟩,
  ⟨0x1D752, 0x1D752, .shift (-119704) 1⟩, ⟨0x1D753, 0x1D753, .shift (-119693) 1⟩,
  ⟨0x1D754, 0x1D754, .shift (-119699) 1⟩, ⟨0x1D755, 0x1D755, .shift (-119701) 1⟩,
  ⟨0x1D756, 0x1D766, .shift (-119717) 1⟩, ⟨0x1D767, 0x1D767, .shift (-119727) 1⟩,
  ⟨0x1D768, 0x1D76E, .shift (-119717) 1⟩, ⟨0x1D76F, 0x1D76F, .shift (-111976) 1⟩,
  ⟨0x1D770, 0x1D780, .shift (-119743) 1⟩, ⟨0x1D781, 0x1D782, .text [0x3C3]⟩,
  ⟨0x1D783, 0x1D788, .shift (-119743) 1⟩, ⟨0x1D789, 0x1D789, .shift (-112007) 1⟩,
  ⟨0x1D78A, 0x1D78A, .shift (-119765) 1⟩, ⟨0x1D78B, 0x1D78B, .shift (-119763) 1⟩,
  ⟨0x1D78C, 0x1D78C, .shift (-119762) 1⟩, ⟨0x1D78D, 0x1D78D, .shift (-119751) 1⟩,
  ⟨0x1D78E, 0x1D78E, .shift (-119757) 1⟩, ⟨0x1D78F, 0x1D78F, .shift (-119759) 1⟩,
  ⟨0x1D790, 0x1D7A0, .shift (-119775) 1⟩, ⟨0x1D7A1, 0x1D7A1, .shift (-119785) 1⟩,
  ⟨0x1D7A2, 0x1D7A8, .shift (-119775) 1⟩, ⟨0x1D7A9, 0x1D7A9, .shift (-112034) 1⟩,
  ⟨0x1D7AA, 0x1D7BA, .shift (-119801) 1⟩, ⟨0x1D7BB, 0x1D7BC, .text [0x3C3]⟩,
  ⟨0x1D7BD, 0x1D7C2, .shift (-119801) 1⟩, ⟨0x1D7C3, 0x1D7C3, .shift (-112065) 1⟩,
  ⟨0x1D7C4, 0x1D7C4, .shift (-119823) 1⟩, ⟨0x1D7C5, 0x1D7C5, .shift (-119821) 1⟩,
  ⟨0x1D7C6, 0x1D7C6, .shift (-119820) 1⟩, ⟨0x1D7C7, 0x1D7C7, .shift (-119809) 1⟩,
  ⟨0x1D7C8, 0x1D7C8, .shift (-119815) 1⟩, ⟨0x1D7C9, 0x1D7C9, .shift (-119817) 1⟩,
  ⟨0x1D7CA, 0x1D7CB, .text [0x3DD]⟩, ⟨0x1D7CC, 0x1D7CD, .disallowed⟩,
  ⟨0x1D7CE, 0x1D7D7, .shift (-120734) 1⟩, ⟨0x1D7D8, 0x1D7E1, .shift (-120744) 1⟩,
  ⟨0x1D7E2, 0x1D7EB, .shift (-120754) 1⟩, ⟨0x1D7EC, 0x1D7F5, .shift (-120764) 1⟩,
  ⟨0x1D7F6, 0x1D7FF, .shift (-120774) 1⟩, ⟨0x1D800, 0x1DA8B, .valid⟩,
  ⟨0x1DA8C, 0x1DA9A, .disallowed⟩, ⟨0x1DA9B, 0x1DA9F, .valid⟩,
  ⟨0x1DAA0, 0x1DAA0, .disallowed⟩, ⟨0x1DAA1, 0x1DAAF, .valid⟩,
  ⟨0x1DAB0, 0x1DEFF, .disallowed⟩]

/-- The runs from U+1DF00 to U+2F84E. -/
def runsFrom1DF00 : List Run := [
  ⟨0x1DF00, 0x1DF1E, .valid⟩, ⟨0x1DF1F, 0x1DF24, .disallowed⟩, ⟨0x1DF25, 0x1DF2A, .valid⟩,
  ⟨0x1DF2B, 0x1DFFF, .disallowed⟩, ⟨0x1E000, 0x1E006, .valid⟩,
  ⟨0x1E007, 0x1E007, .disallowed⟩, ⟨0x1E008, 0x1E018, .valid⟩,
  ⟨0x1E019, 0x1E01A, .disallowed⟩, ⟨0x1E01B, 0x1E021, .valid⟩,
  ⟨0x1E022, 0x1E022, .disallowed⟩, ⟨0x1E023, 0x1E024, .valid⟩,
  ⟨0x1E025, 0x1E025, .disallowed⟩, ⟨0x1E026, 0x1E02A, .valid⟩,
  ⟨0x1E02B, 0x1E02F, .disallowed⟩, ⟨0x1E030, 0x1E038, .shift (-121856) 1⟩,
  ⟨0x1E039, 0x1E03B, .shift (-121855) 1⟩, ⟨0x1E03C, 0x1E046, .shift (-121854) 1⟩,
  ⟨0x1E047, 0x1E047, .shift (-121852) 1⟩, ⟨0x1E048, 0x1E049, .shift (-121851) 1⟩,
  ⟨0x1E04A, 0x1E04A, .shift (-80321) 1⟩, ⟨0x1E04B, 0x1E04B, .shift (-121714) 1⟩,
  ⟨0x1E04C, 0x1E04C, .shift (-121846) 1⟩, ⟨0x1E04D, 0x1E04D, .shift (-121845) 1⟩,
  ⟨0x1E04E, 0x1E04E, .shift (-121701) 1⟩, ⟨0x1E04F, 0x1E04F, .shift (-121760) 1⟩,
  ⟨0x1E050, 0x1E050, .shift (-121729) 1⟩, ⟨0x1E051, 0x1E059, .shift (-121889) 1⟩,
  ⟨0x1E05A, 0x1E05B, .shift (-121888) 1⟩, ⟨0x1E05C, 0x1E05D, .shift (-121886) 1⟩,
  ⟨0x1E05E, 0x1E05E, .shift (-121885) 1⟩, ⟨0x1E05F, 0x1E064, .shift (-121884) 1⟩,
  ⟨0x1E065, 0x1E066, .shift (-121883) 1⟩, ⟨0x1E067, 0x1E067, .shift (-121814) 1⟩,
  ⟨0x1E068, 0x1E068, .shift (-121874) 1⟩, ⟨0x1E069, 0x1E069, .shift (-121876) 1⟩,
  ⟨0x1E06A, 0x1E06A, .shift (-121867) 1⟩, ⟨0x1E06B, 0x1E06B, .shift (-121792) 1⟩,
  ⟨0x1E06C, 0x1E06C, .shift (-80411) 1⟩, ⟨0x1E06D, 0x1E06D, .shift (-121788) 1⟩,
  ⟨0x1E06E, 0x1E08E, .disallowed⟩, ⟨0x1E08F, 0x1E08F, .valid⟩,
  ⟨0x1E090, 0x1E0FF, .disallowed⟩, ⟨0x1E100, 0x1E12C, .valid⟩,
  ⟨0x1E12D, 0x1E12F, .disallowed⟩, ⟨0x1E130, 0x1E13D, .valid⟩,
  ⟨0x1E13E, 0x1E13F, .disallowed⟩, ⟨0x1E140, 0x1E149, .valid⟩,
  ⟨0x1E14A, 0x1E14D, .disallowed⟩, ⟨0x1E14E, 0x1E14F, .valid⟩,
  ⟨0x1E150, 0x1E28F, .disallowed⟩, ⟨0x1E290, 0x1E2AE, .valid⟩,
  ⟨0x1E2AF, 0x1E2BF, .disallowed⟩, ⟨0x1E2C0, 0x1E2F9, .valid⟩,
  ⟨0x1E2FA, 0x1E2FE, .disallowed⟩, ⟨0x1E2FF, 0x1E2FF, .valid⟩,
  ⟨0x1E300, 0x1E4CF, .disallowed⟩, ⟨0x1E4D0, 0x1E4F9, .valid⟩,
  ⟨0x1E4FA, 0x1E5CF, .disallowed⟩, ⟨0x1E5D0, 0x1E5FA, .valid⟩,
  ⟨0x1E5FB, 0x1E5FE, .disallowed⟩, ⟨0x1E5FF, 0x1E5FF, .valid⟩,
  ⟨0x1E600, 0x1E6BF, .disallowed⟩, ⟨0x1E6C0, 0x1E6DE, .valid⟩,
  ⟨0x1E6DF, 0x1E6DF, .disallowed⟩, ⟨0x1E6E0, 0x1E6F5, .valid⟩,
  ⟨0x1E6F6, 0x1E6FD, .disallowed⟩, ⟨0x1E6FE, 0x1E6FF, .valid⟩,
  ⟨0x1E700, 0x1E7DF, .disallowed⟩, ⟨0x1E7E0, 0x1E7E6, .valid⟩,
  ⟨0x1E7E7, 0x1E7E7, .disallowed⟩, ⟨0x1E7E8, 0x1E7EB, .valid⟩,
  ⟨0x1E7EC, 0x1E7EC, .disallowed⟩, ⟨0x1E7ED, 0x1E7EE, .valid⟩,
  ⟨0x1E7EF, 0x1E7EF, .disallowed⟩, ⟨0x1E7F0, 0x1E7FE, .valid⟩,
  ⟨0x1E7FF, 0x1E7FF, .disallowed⟩, ⟨0x1E800, 0x1E8C4, .valid⟩,
  ⟨0x1E8C5, 0x1E8C6, .disallowed⟩, ⟨0x1E8C7, 0x1E8D6, .valid⟩,
  ⟨0x1E8D7, 0x1E8FF, .disallowed⟩, ⟨0x1E900, 0x1E921, .shift 34 1⟩,
  ⟨0x1E922, 0x1E94B, .valid⟩, ⟨0x1E94C, 0x1E94F, .disallowed⟩, ⟨0x1E950, 0x1E959, .valid⟩,
  ⟨0x1E95A, 0x1E95D, .disallowed⟩, ⟨0x1E95E, 0x1E95F, .valid⟩,
  ⟨0x1E960, 0x1EC70, .disallowed⟩, ⟨0x1EC71, 0x1ECB4, .valid⟩,
  ⟨0x1ECB5, 0x1ED00, .disallowed⟩, ⟨0x1ED01, 0x1ED3D, .valid⟩,
  ⟨0x1ED3E, 0x1EDFF, .disallowed⟩, ⟨0x1EE00, 0x1EE01, .shift (-124889) 1⟩,
  ⟨0x1EE02, 0x1EE02, .shift (-124886) 1⟩, ⟨0x1EE03, 0x1EE03, .shift (-124884) 1⟩,
  ⟨0x1EE04, 0x1EE04, .disallowed⟩, ⟨0x1EE05, 0x1EE05, .shift (-124861) 1⟩,
  ⟨0x1EE06, 0x1EE06, .shift (-124884) 1⟩, ⟨0x1EE07, 0x1EE07, .shift (-124890) 1⟩,
  ⟨0x1EE08, 0x1EE08, .shift (-124881) 1⟩, ⟨0x1EE09, 0x1EE09, .shift (-124863) 1⟩,
  ⟨0x1EE0A, 0x1EE0D, .shift (-124871) 1⟩, ⟨0x1EE0E, 0x1EE0E, .shift (-124891) 1⟩,
  ⟨0x1EE0F, 0x1EE0F, .shift (-124886) 1⟩, ⟨0x1EE10, 0x1EE10, .shift (-124879) 1⟩,
  ⟨0x1EE11, 0x1EE11, .shift (-124892) 1⟩, ⟨0x1EE12, 0x1EE12, .shift (-124880) 1⟩,
  ⟨0x1EE13, 0x1EE13, .shift (-124898) 1⟩, ⟨0x1EE14, 0x1EE14, .shift (-124896) 1⟩,
  ⟨0x1EE15, 0x1EE16, .shift (-124907) 1⟩, ⟨0x1EE17, 0x1EE17, .shift (-124905) 1⟩,
  ⟨0x1EE18, 0x1EE18, .shift (-124904) 1⟩, ⟨0x1EE19, 0x1EE19, .shift (-124899) 1⟩,
  ⟨0x1EE1A, 0x1EE1A, .shift (-124898) 1⟩, ⟨0x1EE1B, 0x1EE1B, .shift (-124897) 1⟩,
  ⟨0x1EE1C, 0x1EE1C, .shift (-124846) 1⟩, ⟨0x1EE1D, 0x1EE1D, .shift (-124771) 1⟩,
  ⟨0x1EE1E, 0x1EE1E, .shift (-124797) 1⟩, ⟨0x1EE1F, 0x1EE1F, .shift (-124848) 1⟩,
  ⟨0x1EE20, 0x1EE20, .disallowed⟩, ⟨0x1EE21, 0x1EE21, .shift (-124921) 1⟩,
  ⟨0x1EE22, 0x1EE22, .shift (-124918) 1⟩, ⟨0x1EE23, 0x1EE23, .disallowed⟩,
  ⟨0x1EE24, 0x1EE24, .shift (-124893) 1⟩, ⟨0x1EE25, 0x1EE26, .disallowed⟩,
  ⟨0x1EE27, 0x1EE27, .shift (-124922) 1⟩, ⟨0x1EE28, 0x1EE28, .disallowed⟩,
  ⟨0x1EE29, 0x1EE29, .shift (-124895) 1⟩, ⟨0x1EE2A, 0x1EE2D, .shift (-124903) 1⟩,
  ⟨0x1EE2E, 0x1EE2E, .shift (-124923) 1⟩, ⟨0x1EE2F, 0x1EE2F, .shift (-124918) 1⟩,
  ⟨0x1EE30, 0x1EE30, .shift (-124911) 1⟩, ⟨0x1EE31, 0x1EE31, .shift (-124924) 1⟩,
  ⟨0x1EE32, 0x1EE32, .shift (-124912) 1⟩, ⟨0x1EE33, 0x1EE33, .disallowed⟩,
  ⟨0x1EE34, 0x1EE34, .shift (-124928) 1⟩, ⟨0x1EE35, 0x1EE36, .shift (-124939) 1⟩,
  ⟨0x1EE37, 0x1EE37, .shift (-124937) 1⟩, ⟨0x1EE38, 0x1EE38, .disallowed⟩,
  ⟨0x1EE39, 0x1EE39, .shift (-124931) 1⟩, ⟨0x1EE3A, 0x1EE3A, .disallowed⟩,
  ⟨0x1EE3B, 0x1EE3B, .shift (-124929) 1⟩, ⟨0x1EE3C, 0x1EE41, .disallowed⟩,
  ⟨0x1EE42, 0x1EE42, .shift (-124950) 1⟩, ⟨0x1EE43, 0x1EE46, .disallowed⟩,
  ⟨0x1EE47, 0x1EE47, .shift (-124954) 1⟩, ⟨0x1EE48, 0x1EE48, .disallowed⟩,
  ⟨0x1EE49, 0x1EE49, .shift (-124927) 1⟩, ⟨0x1EE4A, 0x1EE4A, .disallowed⟩,
  ⟨0x1EE4B, 0x1EE4B, .shift (-124935) 1⟩, ⟨0x1EE4C, 0x1EE4C, .disallowed⟩,
  ⟨0x1EE4D, 0x1EE4D, .shift (-124935) 1⟩, ⟨0x1EE4E, 0x1EE4E, .shift (-124955) 1⟩,
  ⟨0x1EE4F, 0x1EE4F, .shift (-124950) 1⟩, ⟨0x1EE50, 0x1EE50, .disallowed⟩,
  ⟨0x1EE51, 0x1EE51, .shift (-124956) 1⟩, ⟨0x1EE52, 0x1EE52, .shift (-124944) 1⟩,
  ⟨0x1EE53, 0x1EE53, .disallowed⟩, ⟨0x1EE54, 0x1EE54, .shift (-124960) 1⟩,
  ⟨0x1EE55, 0x1EE56, .disallowed⟩, ⟨0x1EE57, 0x1EE57, .shift (-124969) 1⟩,
  ⟨0x1EE58, 0x1EE58, .disallowed⟩, ⟨0x1EE59, 0x1EE59, .shift (-124963) 1⟩,
  ⟨0x1EE5A, 0x1EE5A, .disallowed⟩, ⟨0x1EE5B, 0x1EE5B, .shift (-124961) 1⟩,
  ⟨0x1EE5C, 0x1EE5C, .disallowed⟩, ⟨0x1EE5D, 0x1EE5D, .shift (-124835) 1⟩,
  ⟨0x1EE5E, 0x1EE5E, .disallowed⟩, ⟨0x1EE5F, 0x1EE5F, .shift (-124912) 1⟩,
  ⟨0x1EE60, 0x1EE60, .disallowed⟩, ⟨0x1EE61, 0x1EE61, .shift (-124985) 1⟩,
  ⟨0x1EE62, 0x1EE62, .shift (-124982) 1⟩, ⟨0x1EE63, 0x1EE63, .disallowed⟩,
  ⟨0x1EE64, 0x1EE64, .shift (-124957) 1⟩, ⟨0x1EE65, 0x1EE66, .disallowed⟩,
  ⟨0x1EE67, 0x1EE67, .shift (-124986) 1⟩, ⟨0x1EE68, 0x1EE68, .shift (-124977) 1⟩,
  ⟨0x1EE69, 0x1EE69, .shift (-124959) 1⟩, ⟨0x1EE6A, 0x1EE6A, .shift (-124967) 1⟩,
  ⟨0x1EE6B, 0x1EE6B, .disallowed⟩, ⟨0x1EE6C, 0x1EE6D, .shift (-124967) 1⟩,
  ⟨0x1EE6E, 0x1EE6E, .shift (-124987) 1⟩, ⟨0x1EE6F, 0x1EE6F, .shift (-124982) 1⟩,
  ⟨0x1EE70, 0x1EE70, .shift (-124975) 1⟩, ⟨0x1EE71, 0x1EE71, .shift (-124988) 1⟩,
  ⟨0x1EE72, 0x1EE72, .shift (-124976) 1⟩, ⟨0x1EE73, 0x1EE73, .disallowed⟩,
  ⟨0x1EE74, 0x1EE74, .shift (-124992) 1⟩, ⟨0x1EE75, 0x1EE76, .shift (-125003) 1⟩,
  ⟨0x1EE77, 0x1EE77, .shift (-125001) 1⟩, ⟨0x1EE78, 0x1EE78, .disallowed⟩,
  ⟨0x1EE79, 0x1EE79, .shift (-124995) 1⟩, ⟨0x1EE7A, 0x1EE7A, .shift (-124994) 1⟩,
  ⟨0x1EE7B, 0x1EE7B, .shift (-124993) 1⟩, ⟨0x1EE7C, 0x1EE7C, .shift (-124942) 1⟩,
  ⟨0x1EE7D, 0x1EE7D, .disallowed⟩, ⟨0x1EE7E, 0x1EE7E, .shift (-124893) 1⟩,
  ⟨0x1EE7F, 0x1EE7F, .disallowed⟩, ⟨0x1EE80, 0x1EE81, .shift (-125017) 1⟩,
  ⟨0x1EE82, 0x1EE82, .shift (-125014) 1⟩, ⟨0x1EE83, 0x1EE83, .shift (-125012) 1⟩,
  ⟨0x1EE84, 0x1EE85, .shift (-124989) 1⟩, ⟨0x1EE86, 0x1EE86, .shift (-125012) 1⟩,
  ⟨0x1EE87, 0x1EE87, .shift (-125018) 1⟩, ⟨0x1EE88, 0x1EE88, .shift (-125009) 1⟩,
  ⟨0x1EE89, 0x1EE89, .shift (-124991) 1⟩, ⟨0x1EE8A, 0x1EE8A, .disallowed⟩,
  ⟨0x1EE8B, 0x1EE8D, .shift (-124999) 1⟩, ⟨0x1EE8E, 0x1EE8E, .shift (-125019) 1⟩,
  ⟨0x1EE8F, 0x1EE8F, .shift (-125014) 1⟩, ⟨0x1EE90, 0x1EE90, .shift (-125007) 1⟩,
  ⟨0x1EE91, 0x1EE91, .shift (-125020) 1⟩, ⟨0x1EE92, 0x1EE92, .shift (-125008) 1⟩,
  ⟨0x1EE93, 0x1EE93, .shift (-125026) 1⟩, ⟨0x1EE94, 0x1EE94, .shift (-125024) 1⟩,
  ⟨0x1EE95, 0x1EE96, .shift (-125035) 1⟩, ⟨0x1EE97, 0x1EE97, .shift (-125033) 1⟩,
  ⟨0x1EE98, 0x1EE98, .shift (-125032) 1⟩, ⟨0x1EE99, 0x1EE99, .shift (-125027) 1⟩,
  ⟨0x1EE9A, 0x1EE9A, .shift (-125026) 1⟩, ⟨0x1EE9B, 0x1EE9B, .shift (-125025) 1⟩,
  ⟨0x1EE9C, 0x1EEA0, .disallowed⟩, ⟨0x1EEA1, 0x1EEA1, .shift (-125049) 1⟩,
  ⟨0x1EEA2, 0x1EEA2, .shift (-125046) 1⟩, ⟨0x1EEA3, 0x1EEA3, .shift (-125044) 1⟩,
  ⟨0x1EEA4, 0x1EEA4, .disallowed⟩, ⟨0x1EEA5, 0x1EEA5, .shift (-125021) 1⟩,
  ⟨0x1EEA6, 0x1EEA6, .shift (-125044) 1⟩, ⟨0x1EEA7, 0x1EEA7, .shift (-125050) 1⟩,
  ⟨0x1EEA8, 0x1EEA8, .shift (-125041) 1⟩, ⟨0x1EEA9, 0x1EEA9, .shift (-125023) 1⟩,
  ⟨0x1EEAA, 0x1EEAA, .disallowed⟩, ⟨0x1EEAB, 0x1EEAD, .shift (-125031) 1⟩,
  ⟨0x1EEAE, 0x1EEAE, .shift (-125051) 1⟩, ⟨0x1EEAF, 0x1EEAF, .shift (-125046) 1⟩,
  ⟨0x1EEB0, 0x1EEB0, .shift (-125039) 1⟩, ⟨0x1EEB1, 0x1EEB1, .shift (-125052) 1⟩,
  ⟨0x1EEB2, 0x1EEB2, .shift (-125040) 1⟩, ⟨0x1EEB3, 0x1EEB3, .shift (-125058) 1⟩,
  ⟨0x1EEB4, 0x1EEB4, .shift (-125056) 1⟩, ⟨0x1EEB5, 0x1EEB6, .shift (-125067) 1⟩,
  ⟨0x1EEB7, 0x1EEB7, .shift (-125065) 1⟩, ⟨0x1EEB8, 0x1EEB8, .shift (-125064) 1⟩,
  ⟨0x1EEB9, 0x1EEB9, .shift (-125059) 1⟩, ⟨0x1EEBA, 0x1EEBA, .shift (-125058) 1⟩,
  ⟨0x1EEBB, 0x1EEBB, .shift (-125057) 1⟩, ⟨0x1EEBC, 0x1EEEF, .disallowed⟩,
  ⟨0x1EEF0, 0x1EEF1, .valid⟩, ⟨0x1EEF2, 0x1EFFF, .disallowed⟩, ⟨0x1F000, 0x1F02B, .valid⟩,
  ⟨0x1F02C, 0x1F02F, .disallowed⟩, ⟨0x1F030, 0x1F093, .valid⟩,
  ⟨0x1F094, 0x1F09F, .disallowed⟩, ⟨0x1F0A0, 0x1F0AE, .valid⟩,
  ⟨0x1F0AF, 0x1F0B0, .disallowed⟩, ⟨0x1F0B1, 0x1F0BF, .valid⟩,
  ⟨0x1F0C0, 0x1F0C0, .disallowed⟩, ⟨0x1F0C1, 0x1F0CF, .valid⟩,
  ⟨0x1F0D0, 0x1F0D0, .disallowed⟩, ⟨0x1F0D1, 0x1F0F5, .valid⟩,
  ⟨0x1F0F6, 0x1F100, .disallowed⟩, ⟨0x1F101, 0x1F101, .text [0x30, 0x2C]⟩,
  ⟨0x1F102, 0x1F102, .text [0x31, 0x2C]⟩, ⟨0x1F103, 0x1F103, .text [0x32, 0x2C]⟩,
  ⟨0x1F104, 0x1F104, .text [0x33, 0x2C]⟩, ⟨0x1F105, 0x1F105, .text [0x34, 0x2C]⟩,
  ⟨0x1F106, 0x1F106, .text [0x35, 0x2C]⟩, ⟨0x1F107, 0x1F107, .text [0x36, 0x2C]⟩,
  ⟨0x1F108, 0x1F108, .text [0x37, 0x2C]⟩, ⟨0x1F109, 0x1F109, .text [0x38, 0x2C]⟩,
  ⟨0x1F10A, 0x1F10A, .text [0x39, 0x2C]⟩, ⟨0x1F10B, 0x1F10F, .valid⟩,
  ⟨0x1F110, 0x1F110, .text [0x28, 0x61, 0x29]⟩,
  ⟨0x1F111, 0x1F111, .text [0x28, 0x62, 0x29]⟩,
  ⟨0x1F112, 0x1F112, .text [0x28, 0x63, 0x29]⟩,
  ⟨0x1F113, 0x1F113, .text [0x28, 0x64, 0x29]⟩,
  ⟨0x1F114, 0x1F114, .text [0x28, 0x65, 0x29]⟩,
  ⟨0x1F115, 0x1F115, .text [0x28, 0x66, 0x29]⟩,
  ⟨0x1F116, 0x1F116, .text [0x28, 0x67, 0x29]⟩,
  ⟨0x1F117, 0x1F117, .text [0x28, 0x68, 0x29]⟩,
  ⟨0x1F118, 0x1F118, .text [0x28, 0x69, 0x29]⟩,
  ⟨0x1F119, 0x1F119, .text [0x28, 0x6A, 0x29]⟩,
  ⟨0x1F11A, 0x1F11A, .text [0x28, 0x6B, 0x29]⟩,
  ⟨0x1F11B, 0x1F11B, .text [0x28, 0x6C, 0x29]⟩,
  ⟨0x1F11C, 0x1F11C, .text [0x28, 0x6D, 0x29]⟩,
  ⟨0x1F11D, 0x1F11D, .text [0x28, 0x6E, 0x29]⟩,
  ⟨0x1F11E, 0x1F11E, .text [0x28, 0x6F, 0x29]⟩,
  ⟨0x1F11F, 0x1F11F, .text [0x28, 0x70, 0x29]⟩,
  ⟨0x1F120, 0x1F120, .text [0x28, 0x71, 0x29]⟩,
  ⟨0x1F121, 0x1F121, .text [0x28, 0x72, 0x29]⟩,
  ⟨0x1F122, 0x1F122, .text [0x28, 0x73, 0x29]⟩,
  ⟨0x1F123, 0x1F123, .text [0x28, 0x74, 0x29]⟩,
  ⟨0x1F124, 0x1F124, .text [0x28, 0x75, 0x29]⟩,
  ⟨0x1F125, 0x1F125, .text [0x28, 0x76, 0x29]⟩,
  ⟨0x1F126, 0x1F126, .text [0x28, 0x77, 0x29]⟩,
  ⟨0x1F127, 0x1F127, .text [0x28, 0x78, 0x29]⟩,
  ⟨0x1F128, 0x1F128, .text [0x28, 0x79, 0x29]⟩,
  ⟨0x1F129, 0x1F129, .text [0x28, 0x7A, 0x29]⟩,
  ⟨0x1F12A, 0x1F12A, .text [0x3014, 0x73, 0x3015]⟩, ⟨0x1F12B, 0x1F12B, .shift (-127176) 1⟩,
  ⟨0x1F12C, 0x1F12C, .shift (-127162) 1⟩, ⟨0x1F12D, 0x1F12D, .text [0x63, 0x64]⟩,
  ⟨0x1F12E, 0x1F12E, .text [0x77, 0x7A]⟩, ⟨0x1F12F, 0x1F12F, .valid⟩,
  ⟨0x1F130, 0x1F149, .shift (-127183) 1⟩, ⟨0x1F14A, 0x1F14A, .text [0x68, 0x76]⟩,
  ⟨0x1F14B, 0x1F14B, .text [0x6D, 0x76]⟩, ⟨0x1F14C, 0x1F14C, .text [0x73, 0x64]⟩,
  ⟨0x1F14D, 0x1F14D, .text [0x73, 0x73]⟩, ⟨0x1F14E, 0x1F14E, .text [0x70, 0x70, 0x76]⟩,
  ⟨0x1F14F, 0x1F14F, .text [0x77, 0x63]⟩, ⟨0x1F150, 0x1F169, .valid⟩,
  ⟨0x1F16A, 0x1F16A, .text [0x6D, 0x63]⟩, ⟨0x1F16B, 0x1F16B, .text [0x6D, 0x64]⟩,
  ⟨0x1F16C, 0x1F16C, .text [0x6D, 0x72]⟩, ⟨0x1F16D, 0x1F18F, .valid⟩,
  ⟨0x1F190, 0x1F190, .text [0x64, 0x6A]⟩, ⟨0x1F191, 0x1F1AD, .valid⟩,
  ⟨0x1F1AE, 0x1F1E5, .disallowed⟩, ⟨0x1F1E6, 0x1F1FF, .valid⟩,
  ⟨0x1F200, 0x1F200, .text [0x307B, 0x304B]⟩, ⟨0x1F201, 0x1F201, .text [0x30B3, 0x30B3]⟩,
  ⟨0x1F202, 0x1F202, .shift (-115021) 1⟩, ⟨0x1F203, 0x1F20F, .disallowed⟩,
  ⟨0x1F210, 0x1F210, .shift (-102341) 1⟩, ⟨0x1F211, 0x1F211, .shift (-104122) 1⟩,
  ⟨0x1F212, 0x1F212, .shift (-106054) 1⟩, ⟨0x1F213, 0x1F213, .shift (-115020) 1⟩,
  ⟨0x1F214, 0x1F214, .shift (-107400) 1⟩, ⟨0x1F215, 0x1F215, .shift (-104699) 1⟩,
  ⟨0x1F216, 0x1F216, .shift (-92211) 1⟩, ⟨0x1F217, 0x1F217, .shift (-104686) 1⟩,
  ⟨0x1F218, 0x1F218, .shift (-107380) 1⟩, ⟨0x1F219, 0x1F219, .shift (-101369) 1⟩,
  ⟨0x1F21A, 0x1F21A, .shift (-98553) 1⟩, ⟨0x1F21B, 0x1F21B, .shift (-101506) 1⟩,
  ⟨0x1F21C, 0x1F21C, .shift (-106447) 1⟩, ⟨0x1F21D, 0x1F21D, .shift (-103057) 1⟩,
  ⟨0x1F21E, 0x1F21E, .shift (-106641) 1⟩, ⟨0x1F21F, 0x1F21F, .shift (-101487) 1⟩,
  ⟨0x1F220, 0x1F220, .shift (-106499) 1⟩, ⟨0x1F221, 0x1F221, .shift (-95455) 1⟩,
  ⟨0x1F222, 0x1F222, .shift (-97539) 1⟩, ⟨0x1F223, 0x1F223, .shift (-91514) 1⟩,
  ⟨0x1F224, 0x1F224, .shift (-104756) 1⟩, ⟨0x1F225, 0x1F225, .shift (-105964) 1⟩,
  ⟨0x1F226, 0x1F226, .shift (-99090) 1⟩, ⟨0x1F227, 0x1F227, .shift (-102290) 1⟩,
  ⟨0x1F228, 0x1F228, .shift (-102099) 1⟩, ⟨0x1F229, 0x1F229, .shift (-107561) 1⟩,
  ⟨0x1F22A, 0x1F22A, .shift (-107553) 1⟩, ⟨0x1F22B, 0x1F22B, .shift (-90593) 1⟩,
  ⟨0x1F22C, 0x1F22C, .shift (-103494) 1⟩, ⟨0x1F22D, 0x1F22D, .shift (-107520) 1⟩,
  ⟨0x1F22E, 0x1F22E, .shift (-106043) 1⟩, ⟨0x1F22F, 0x1F22F, .shift (-102184) 1⟩,
  ⟨0x1F230, 0x1F230, .shift (-91328) 1⟩, ⟨0x1F231, 0x1F231, .shift (-102366) 1⟩,
  ⟨0x1F232, 0x1F232, .shift (-96433) 1⟩, ⟨0x1F233, 0x1F233, .shift (-96185) 1⟩,
  ⟨0x1F234, 0x1F234, .shift (-106028) 1⟩, ⟨0x1F235, 0x1F235, .shift (-99253) 1⟩,
  ⟨0x1F236, 0x1F236, .shift (-101165) 1⟩, ⟨0x1F237, 0x1F237, .shift (-101167) 1⟩,
  ⟨0x1F238, 0x1F238, .shift (-97541) 1⟩, ⟨0x1F239, 0x1F239, .shift (-106439) 1⟩,
  ⟨0x1F23A, 0x1F23A, .shift (-105604) 1⟩, ⟨0x1F23B, 0x1F23B, .shift (-90350) 1⟩,
  ⟨0x1F23C, 0x1F23F, .disallowed⟩, ⟨0x1F240, 0x1F240, .text [0x3014, 0x672C, 0x3015]⟩,
  ⟨0x1F241, 0x1F241, .text [0x3014, 0x4E09, 0x3015]⟩,
  ⟨0x1F242, 0x1F242, .text [0x3014, 0x4E8C, 0x3015]⟩,
  ⟨0x1F243, 0x1F243, .text [0x3014, 0x5B89, 0x3015]⟩,
  ⟨0x1F244, 0x1F244, .text [0x3014, 0x70B9, 0x3015]⟩,
  ⟨0x1F245, 0x1F245, .text [0x3014, 0x6253, 0x3015]⟩,
  ⟨0x1F246, 0x1F246, .text [0x3014, 0x76D7, 0x3015]⟩,
  ⟨0x1F247, 0x1F247, .text [0x3014, 0x52DD, 0x3015]⟩,
  ⟨0x1F248, 0x1F248, .text [0x3014, 0x6557, 0x3015]⟩, ⟨0x1F249, 0x1F24F, .disallowed⟩,
  ⟨0x1F250, 0x1F250, .shift (-103097) 1⟩, ⟨0x1F251, 0x1F251, .shift (-106082) 1⟩,
  ⟨0x1F252, 0x1F25F, .disallowed⟩, ⟨0x1F260, 0x1F265, .valid⟩,
  ⟨0x1F266, 0x1F2FF, .disallowed⟩, ⟨0x1F300, 0x1F6D8, .valid⟩,
  ⟨0x1F6D9, 0x1F6DB, .disallowed⟩, ⟨0x1F6DC, 0x1F6EC, .valid⟩,
  ⟨0x1F6ED, 0x1F6EF, .disallowed⟩, ⟨0x1F6F0, 0x1F6FC, .valid⟩,
  ⟨0x1F6FD, 0x1F6FF, .disallowed⟩, ⟨0x1F700, 0x1F7D9, .valid⟩,
  ⟨0x1F7DA, 0x1F7DF, .disallowed⟩, ⟨0x1F7E0, 0x1F7EB, .valid⟩,
  ⟨0x1F7EC, 0x1F7EF, .disallowed⟩, ⟨0x1F7F0, 0x1F7F0, .valid⟩,
  ⟨0x1F7F1, 0x1F7FF, .disallowed⟩, ⟨0x1F800, 0x1F80B, .valid⟩,
  ⟨0x1F80C, 0x1F80F, .disallowed⟩, ⟨0x1F810, 0x1F847, .valid⟩,
  ⟨0x1F848, 0x1F84F, .disallowed⟩, ⟨0x1F850, 0x1F859, .valid⟩,
  ⟨0x1F85A, 0x1F85F, .disallowed⟩, ⟨0x1F860, 0x1F887, .valid⟩,
  ⟨0x1F888, 0x1F88F, .disallowed⟩, ⟨0x1F890, 0x1F8AD, .valid⟩,
  ⟨0x1F8AE, 0x1F8AF, .disallowed⟩, ⟨0x1F8B0, 0x1F8BB, .valid⟩,
  ⟨0x1F8BC, 0x1F8BF, .disallowed⟩, ⟨0x1F8C0, 0x1F8C1, .valid⟩,
  ⟨0x1F8C2, 0x1F8CF, .disallowed⟩, ⟨0x1F8D0, 0x1F8D8, .valid⟩,
  ⟨0x1F8D9, 0x1F8FF, .disallowed⟩, ⟨0x1F900, 0x1FA57, .valid⟩,
  ⟨0x1FA58, 0x1FA5F, .disallowed⟩, ⟨0x1FA60, 0x1FA6D, .valid⟩,
  ⟨0x1FA6E, 0x1FA6F, .disallowed⟩, ⟨0x1FA70, 0x1FA7C, .valid⟩,
  ⟨0x1FA7D, 0x1FA7F, .disallowed⟩, ⟨0x1FA80, 0x1FA8A, .valid⟩,
  ⟨0x1FA8B, 0x1FA8D, .disallowed⟩, ⟨0x1FA8E, 0x1FAC6, .valid⟩,
  ⟨0x1FAC7, 0x1FAC7, .disallowed⟩, ⟨0x1FAC8, 0x1FAC8, .valid⟩,
  ⟨0x1FAC9, 0x1FACC, .disallowed⟩, ⟨0x1FACD, 0x1FADC, .valid⟩,
  ⟨0x1FADD, 0x1FADE, .disallowed⟩, ⟨0x1FADF, 0x1FAEA, .valid⟩,
  ⟨0x1FAEB, 0x1FAEE, .disallowed⟩, ⟨0x1FAEF, 0x1FAF8, .valid⟩,
  ⟨0x1FAF9, 0x1FAFF, .disallowed⟩, ⟨0x1FB00, 0x1FB92, .valid⟩,
  ⟨0x1FB93, 0x1FB93, .disallowed⟩, ⟨0x1FB94, 0x1FBEF, .valid⟩,
  ⟨0x1FBF0, 0x1FBF9, .shift (-129984) 1⟩, ⟨0x1FBFA, 0x1FBFA, .valid⟩,
  ⟨0x1FBFB, 0x1FFFF, .disallowed⟩, ⟨0x20000, 0x2A6DF, .valid⟩,
  ⟨0x2A6E0, 0x2A6FF, .disallowed⟩, ⟨0x2A700, 0x2B81D, .valid⟩,
  ⟨0x2B81E, 0x2B81F, .disallowed⟩, ⟨0x2B820, 0x2CEAD, .valid⟩,
  ⟨0x2CEAE, 0x2CEAF, .disallowed⟩, ⟨0x2CEB0, 0x2EBE0, .valid⟩,
  ⟨0x2EBE1, 0x2EBEF, .disallowed⟩, ⟨0x2EBF0, 0x2EE5D, .valid⟩,
  ⟨0x2EE5E, 0x2F7FF, .disallowed⟩, ⟨0x2F800, 0x2F800, .shift (-174531) 1⟩,
  ⟨0x2F801, 0x2F801, .shift (-174537) 1⟩, ⟨0x2F802, 0x2F802, .shift (-174529) 1⟩,
  ⟨0x2F803, 0x2F803, .shift (-63201) 1⟩, ⟨0x2F804, 0x2F804, .shift (-174244) 1⟩,
  ⟨0x2F805, 0x2F805, .shift (-174167) 1⟩, ⟨0x2F806, 0x2F806, .shift (-174155) 1⟩,
  ⟨0x2F807, 0x2F807, .shift (-174085) 1⟩, ⟨0x2F808, 0x2F808, .shift (-173966) 1⟩,
  ⟨0x2F809, 0x2F809, .shift (-173936) 1⟩, ⟨0x2F80A, 0x2F80A, .shift (-173859) 1⟩,
  ⟨0x2F80B, 0x2F80B, .shift (-173884) 1⟩, ⟨0x2F80C, 0x2F80C, .shift (-181102) 1⟩,
  ⟨0x2F80D, 0x2F80D, .shift (-61907) 1⟩, ⟨0x2F80E, 0x2F80E, .shift (-173761) 1⟩,
  ⟨0x2F80F, 0x2F80F, .shift (-173755) 1⟩, ⟨0x2F810, 0x2F810, .shift (-173740) 1⟩,
  ⟨0x2F811, 0x2F811, .shift (-173722) 1⟩, ⟨0x2F812, 0x2F812, .shift (-62198) 1⟩,
  ⟨0x2F813, 0x2F813, .shift (-181082) 1⟩, ⟨0x2F814, 0x2F814, .shift (-173741) 1⟩,
  ⟨0x2F815, 0x2F815, .shift (-173704) 1⟩, ⟨0x2F816, 0x2F816, .shift (-62155) 1⟩,
  ⟨0x2F817, 0x2F817, .shift (-173696) 1⟩, ⟨0x2F818, 0x2F818, .shift (-173684) 1⟩,
  ⟨0x2F819, 0x2F819, .shift (-174413) 1⟩, ⟨0x2F81A, 0x2F81A, .shift (-173678) 1⟩,
  ⟨0x2F81B, 0x2F81B, .shift (-173670) 1⟩, ⟨0x2F81C, 0x2F81C, .shift (-26173) 1⟩,
  ⟨0x2F81D, 0x2F81D, .shift (-173608) 1⟩, ⟨0x2F81E, 0x2F81E, .shift (-173595) 1⟩,
  ⟨0x2F81F, 0x2F81F, .shift (-181056) 1⟩, ⟨0x2F820, 0x2F820, .shift (-173541) 1⟩,
  ⟨0x2F821, 0x2F821, .shift (-173531) 1⟩, ⟨0x2F822, 0x2F822, .shift (-173488) 1⟩,
  ⟨0x2F823, 0x2F823, .shift (-173484) 1⟩, ⟨0x2F824, 0x2F824, .shift (-181007) 1⟩,
  ⟨0x2F825, 0x2F825, .shift (-173406) 1⟩, ⟨0x2F826, 0x2F826, .shift (-173405) 1⟩,
  ⟨0x2F827, 0x2F827, .shift (-173379) 1⟩, ⟨0x2F828, 0x2F828, .shift (-173358) 1⟩,
  ⟨0x2F829, 0x2F82A, .shift (-173348) 1⟩, ⟨0x2F82B, 0x2F82B, .shift (-173332) 1⟩,
  ⟨0x2F82C, 0x2F82C, .shift (-173283) 1⟩, ⟨0x2F82D, 0x2F82D, .shift (-173276) 1⟩,
  ⟨0x2F82E, 0x2F82E, .shift (-173268) 1⟩, ⟨0x2F82F, 0x2F82F, .shift (-173244) 1⟩,
  ⟨0x2F830, 0x2F830, .shift (-173235) 1⟩, ⟨0x2F831, 0x2F833, .text [0x537F]⟩,
  ⟨0x2F834, 0x2F834, .shift (-60936) 1⟩, ⟨0x2F835, 0x2F835, .shift (-165829) 1⟩,
  ⟨0x2F836, 0x2F836, .shift (-173164) 1⟩, ⟨0x2F837, 0x2F837, .shift (-173144) 1⟩,
  ⟨0x2F838, 0x2F838, .shift (-60629) 1⟩, ⟨0x2F839, 0x2F839, .shift (-173134) 1⟩,
  ⟨0x2F83A, 0x2F83A, .shift (-173129) 1⟩, ⟨0x2F83B, 0x2F83B, .shift (-173109) 1⟩,
  ⟨0x2F83C, 0x2F83C, .shift (-172958) 1⟩, ⟨0x2F83D, 0x2F83D, .shift (-173061) 1⟩,
  ⟨0x2F83E, 0x2F83E, .shift (-173046) 1⟩, ⟨0x2F83F, 0x2F83F, .shift (-173015) 1⟩,
  ⟨0x2F840, 0x2F840, .shift (-172958) 1⟩, ⟨0x2F841, 0x2F841, .shift (-172875) 1⟩,
  ⟨0x2F842, 0x2F842, .shift (-172850) 1⟩, ⟨0x2F843, 0x2F843, .shift (-172784) 1⟩,
  ⟨0x2F844, 0x2F844, .shift (-172769) 1⟩, ⟨0x2F845, 0x2F846, .text [0x5584]⟩,
  ⟨0x2F847, 0x2F847, .shift (-172718) 1⟩, ⟨0x2F848, 0x2F848, .shift (-172701) 1⟩,
  ⟨0x2F849, 0x2F849, .shift (-172694) 1⟩, ⟨0x2F84A, 0x2F84A, .shift (-172680) 1⟩,
  ⟨0x2F84B, 0x2F84B, .shift (-172341) 1⟩, ⟨0x2F84C, 0x2F84C, .shift (-172614) 1⟩,
  ⟨0x2F84D, 0x2F84D, .shift (-172342) 1⟩, ⟨0x2F84E, 0x2F84E, .shift (-172541) 1⟩]

/-- The runs from U+2F84F to U+10FFFF. -/
def runsFrom2F84F : List Run := [
  ⟨0x2F84F, 0x2F84F, .shift (-172507) 1⟩, ⟨0x2F850, 0x2F850, .shift (-173641) 1⟩,
  ⟨0x2F851, 0x2F851, .shift (-171875) 1⟩, ⟨0x2F852, 0x2F852, .shift (-172164) 1⟩,
  ⟨0x2F853, 0x2F853, .shift (-172127) 1⟩, ⟨0x2F854, 0x2F854, .shift (-172103) 1⟩,
  ⟨0x2F855, 0x2F855, .shift (-172234) 1⟩, ⟨0x2F856, 0x2F856, .shift (-172068) 1⟩,
  ⟨0x2F857, 0x2F857, .shift (-172070) 1⟩, ⟨0x2F858, 0x2F858, .shift (-171948) 1⟩,
  ⟨0x2F859, 0x2F859, .shift (-58229) 1⟩, ⟨0x2F85A, 0x2F85A, .shift (-171880) 1⟩,
  ⟨0x2F85B, 0x2F85B, .shift (-171876) 1⟩, ⟨0x2F85C, 0x2F85C, .shift (-171862) 1⟩,
  ⟨0x2F85D, 0x2F85D, .shift (-171843) 1⟩, ⟨0x2F85E, 0x2F85E, .shift (-171836) 1⟩,
  ⟨0x2F85F, 0x2F85F, .shift (-171773) 1⟩, ⟨0x2F860, 0x2F860, .shift (-57784) 1⟩,
  ⟨0x2F861, 0x2F861, .shift (-57719) 1⟩, ⟨0x2F862, 0x2F862, .shift (-171638) 1⟩,
  ⟨0x2F863, 0x2F863, .shift (-171592) 1⟩, ⟨0x2F864, 0x2F864, .shift (-171581) 1⟩,
  ⟨0x2F865, 0x2F865, .shift (-171661) 1⟩, ⟨0x2F866, 0x2F866, .shift (-171520) 1⟩,
  ⟨0x2F867, 0x2F867, .shift (-180601) 1⟩, ⟨0x2F868, 0x2F868, .shift (-180588) 1⟩,
  ⟨0x2F869, 0x2F869, .shift (-171361) 1⟩, ⟨0x2F86A, 0x2F86B, .text [0x5B3E]⟩,
  ⟨0x2F86C, 0x2F86C, .shift (-56996) 1⟩, ⟨0x2F86D, 0x2F86D, .shift (-171178) 1⟩,
  ⟨0x2F86E, 0x2F86E, .shift (-171158) 1⟩, ⟨0x2F86F, 0x2F86F, .shift (-171144) 1⟩,
  ⟨0x2F870, 0x2F870, .shift (-171133) 1⟩, ⟨0x2F871, 0x2F871, .shift (-56665) 1⟩,
  ⟨0x2F872, 0x2F872, .shift (-171123) 1⟩, ⟨0x2F873, 0x2F873, .shift (-171117) 1⟩,
  ⟨0x2F874, 0x2F874, .shift (-170273) 1⟩, ⟨0x2F875, 0x2F875, .shift (-171091) 1⟩,
  ⟨0x2F876, 0x2F876, .shift (-180469) 1⟩, ⟨0x2F877, 0x2F877, .shift (-171031) 1⟩,
  ⟨0x2F878, 0x2F878, .shift (-171018) 1⟩, ⟨0x2F879, 0x2F879, .shift (-170937) 1⟩,
  ⟨0x2F87A, 0x2F87A, .shift (-170989) 1⟩, ⟨0x2F87B, 0x2F87B, .shift (-55959) 1⟩,
  ⟨0x2F87C, 0x2F87C, .shift (-170809) 1⟩, ⟨0x2F87D, 0x2F87D, .shift (-55959) 1⟩,
  ⟨0x2F87E, 0x2F87E, .shift (-170768) 1⟩, ⟨0x2F87F, 0x2F87F, .shift (-170772) 1⟩,
  ⟨0x2F880, 0x2F880, .shift (-170756) 1⟩, ⟨0x2F881, 0x2F882, .shift (-170656) 1⟩,
  ⟨0x2F883, 0x2F883, .shift (-180308) 1⟩, ⟨0x2F884, 0x2F884, .shift (-170631) 1⟩,
  ⟨0x2F885, 0x2F885, .shift (-170589) 1⟩, ⟨0x2F886, 0x2F886, .shift (-170569) 1⟩,
  ⟨0x2F887, 0x2F887, .shift (-170526) 1⟩, ⟨0x2F888, 0x2F888, .shift (-180262) 1⟩,
  ⟨0x2F889, 0x2F889, .shift (-55046) 1⟩, ⟨0x2F88A, 0x2F88A, .shift (-180238) 1⟩,
  ⟨0x2F88B, 0x2F88B, .shift (-170459) 1⟩, ⟨0x2F88C, 0x2F88C, .shift (-170457) 1⟩,
  ⟨0x2F88D, 0x2F88D, .shift (-170455) 1⟩, ⟨0x2F88E, 0x2F88E, .shift (-170436) 1⟩,
  ⟨0x2F88F, 0x2F88F, .shift (-21757) 1⟩, ⟨0x2F890, 0x2F890, .shift (-170386) 1⟩,
  ⟨0x2F891, 0x2F892, .text [0x22331]⟩, ⟨0x2F893, 0x2F893, .shift (-161426) 1⟩,
  ⟨0x2F894, 0x2F895, .text [0x5F22]⟩, ⟨0x2F896, 0x2F896, .shift (-180175) 1⟩,
  ⟨0x2F897, 0x2F897, .shift (-50655) 1⟩, ⟨0x2F898, 0x2F898, .shift (-38590) 1⟩,
  ⟨0x2F899, 0x2F899, .shift (-170295) 1⟩, ⟨0x2F89A, 0x2F89A, .shift (-170287) 1⟩,
  ⟨0x2F89B, 0x2F89B, .shift (-180152) 1⟩, ⟨0x2F89C, 0x2F89C, .shift (-170242) 1⟩,
  ⟨0x2F89D, 0x2F89D, .shift (-170192) 1⟩, ⟨0x2F89E, 0x2F89E, .shift (-170183) 1⟩,
  ⟨0x2F89F, 0x2F89F, .shift (-170150) 1⟩, ⟨0x2F8A0, 0x2F8A0, .shift (-170015) 1⟩,
  ⟨0x2F8A1, 0x2F8A1, .shift (-180071) 1⟩, ⟨0x2F8A2, 0x2F8A2, .shift (-180102) 1⟩,
  ⟨0x2F8A3, 0x2F8A3, .shift (-169999) 1⟩, ⟨0x2F8A4, 0x2F8A4, .shift (-53712) 1⟩,
  ⟨0x2F8A5, 0x2F8A5, .shift (-169950) 1⟩, ⟨0x2F8A6, 0x2F8A6, .shift (-169822) 1⟩,
  ⟨0x2F8A7, 0x2F8A7, .shift (-169819) 1⟩, ⟨0x2F8A8, 0x2F8A8, .shift (-169818) 1⟩,
  ⟨0x2F8A9, 0x2F8A9, .shift (-169821) 1⟩, ⟨0x2F8AA, 0x2F8AA, .shift (-169776) 1⟩,
  ⟨0x2F8AB, 0x2F8AB, .shift (-169757) 1⟩, ⟨0x2F8AC, 0x2F8AC, .shift (-169722) 1⟩,
  ⟨0x2F8AD, 0x2F8AD, .shift (-169737) 1⟩, ⟨0x2F8AE, 0x2F8AE, .shift (-169727) 1⟩,
  ⟨0x2F8AF, 0x2F8AF, .shift (-169681) 1⟩, ⟨0x2F8B0, 0x2F8B0, .shift (-169662) 1⟩,
  ⟨0x2F8B1, 0x2F8B1, .shift (-169659) 1⟩, ⟨0x2F8B2, 0x2F8B2, .shift (-169634) 1⟩,
  ⟨0x2F8B3, 0x2F8B3, .shift (-169624) 1⟩, ⟨0x2F8B4, 0x2F8B4, .shift (-169559) 1⟩,
  ⟨0x2F8B5, 0x2F8B5, .shift (-169476) 1⟩, ⟨0x2F8B6, 0x2F8B6, .shift (-169442) 1⟩,
  ⟨0x2F8B7, 0x2F8B7, .shift (-169319) 1⟩, ⟨0x2F8B8, 0x2F8B8, .shift (-52652) 1⟩,
  ⟨0x2F8B9, 0x2F8B9, .shift (-169340) 1⟩, ⟨0x2F8BA, 0x2F8BA, .shift (-169406) 1⟩,
  ⟨0x2F8BB, 0x2F8BB, .shift (-169299) 1⟩, ⟨0x2F8BC, 0x2F8BC, .shift (-169273) 1⟩,
  ⟨0x2F8BD, 0x2F8BD, .shift (-169177) 1⟩, ⟨0x2F8BE, 0x2F8BE, .shift (-52429) 1⟩,
  ⟨0x2F8BF, 0x2F8BF, .shift (-169117) 1⟩, ⟨0x2F8C0, 0x2F8C0, .shift (-169211) 1⟩,
  ⟨0x2F8C1, 0x2F8C1, .shift (-169240) 1⟩, ⟨0x2F8C2, 0x2F8C2, .shift (-179860) 1⟩,
  ⟨0x2F8C3, 0x2F8C3, .shift (-169050) 1⟩, ⟨0x2F8C4, 0x2F8C4, .shift (-169030) 1⟩,
  ⟨0x2F8C5, 0x2F8C5, .shift (-169000) 1⟩, ⟨0x2F8C6, 0x2F8C6, .shift (-169039) 1⟩,
  ⟨0x2F8C7, 0x2F8C7, .shift (-179803) 1⟩, ⟨0x2F8C8, 0x2F8C8, .shift (-168825) 1⟩,
  ⟨0x2F8C9, 0x2F8C9, .shift (-168797) 1⟩, ⟨0x2F8CA, 0x2F8CA, .shift (-51392) 1⟩,
  ⟨0x2F8CB, 0x2F8CB, .shift (-168680) 1⟩, ⟨0x2F8CC, 0x2F8CC, .shift (-168404) 1⟩,
  ⟨0x2F8CD, 0x2F8CD, .shift (-168580) 1⟩, ⟨0x2F8CE, 0x2F8CE, .shift (-179637) 1⟩,
  ⟨0x2F8CF, 0x2F8CF, .shift (-168510) 1⟩, ⟨0x2F8D0, 0x2F8D0, .shift (-179656) 1⟩,
  ⟨0x2F8D1, 0x2F8D1, .shift (-179693) 1⟩, ⟨0x2F8D2, 0x2F8D2, .shift (-173888) 1⟩,
  ⟨0x2F8D3, 0x2F8D3, .shift (-173886) 1⟩, ⟨0x2F8D4, 0x2F8D4, .shift (-168404) 1⟩,
  ⟨0x2F8D5, 0x2F8D5, .shift (-168505) 1⟩, ⟨0x2F8D6, 0x2F8D6, .shift (-161833) 1⟩,
  ⟨0x2F8D7, 0x2F8D7, .shift (-177406) 1⟩, ⟨0x2F8D8, 0x2F8D8, .shift (-168385) 1⟩,
  ⟨0x2F8D9, 0x2F8D9, .shift (-168382) 1⟩, ⟨0x2F8DA, 0x2F8DA, .shift (-168377) 1⟩,
  ⟨0x2F8DB, 0x2F8DB, .shift (-168317) 1⟩, ⟨0x2F8DC, 0x2F8DC, .shift (-168329) 1⟩,
  ⟨0x2F8DD, 0x2F8DD, .shift (-50458) 1⟩, ⟨0x2F8DE, 0x2F8DE, .shift (-179605) 1⟩,
  ⟨0x2F8DF, 0x2F8DF, .shift (-168165) 1⟩, ⟨0x2F8E0, 0x2F8E0, .shift (-168283) 1⟩,
  ⟨0x2F8E1, 0x2F8E1, .shift (-168079) 1⟩, ⟨0x2F8E2, 0x2F8E2, .shift (-168029) 1⟩,
  ⟨0x2F8E3, 0x2F8E3, .shift (-50294) 1⟩, ⟨0x2F8E4, 0x2F8E4, .shift (-168022) 1⟩,
  ⟨0x2F8E5, 0x2F8E5, .shift (-168134) 1⟩, ⟨0x2F8E6, 0x2F8E6, .shift (-167890) 1⟩,
  ⟨0x2F8E7, 0x2F8E7, .shift (-179530) 1⟩, ⟨0x2F8E8, 0x2F8E8, .shift (-167846) 1⟩,
  ⟨0x2F8E9, 0x2F8E9, .shift (-167750) 1⟩, ⟨0x2F8EA, 0x2F8EA, .shift (-167680) 1⟩,
  ⟨0x2F8EB, 0x2F8EB, .shift (-167491) 1⟩, ⟨0x2F8EC, 0x2F8EC, .shift (-49737) 1⟩,
  ⟨0x2F8ED, 0x2F8ED, .shift (-167442) 1⟩, ⟨0x2F8EE, 0x2F8EE, .shift (-179414) 1⟩,
  ⟨0x2F8EF, 0x2F8EF, .shift (-167374) 1⟩, ⟨0x2F8F0, 0x2F8F0, .shift (-49225) 1⟩,
  ⟨0x2F8F1, 0x2F8F1, .shift (-167325) 1⟩, ⟨0x2F8F2, 0x2F8F2, .shift (-179364) 1⟩,
  ⟨0x2F8F3, 0x2F8F3, .shift (-167297) 1⟩, ⟨0x2F8F4, 0x2F8F4, .shift (-167253) 1⟩,
  ⟨0x2F8F5, 0x2F8F6, .shift (-167227) 1⟩, ⟨0x2F8F7, 0x2F8F7, .shift (-48746) 1⟩,
  ⟨0x2F8F8, 0x2F8F8, .shift (-56301) 1⟩, ⟨0x2F8F9, 0x2F8F9, .shift (-48639) 1⟩,
  ⟨0x2F8FA, 0x2F8FA, .shift (-167084) 1⟩, ⟨0x2F8FB, 0x2F8FB, .shift (-48191) 1⟩,
  ⟨0x2F8FC, 0x2F8FC, .shift (-166973) 1⟩, ⟨0x2F8FD, 0x2F8FD, .shift (-166960) 1⟩,
  ⟨0x2F8FE, 0x2F8FE, .shift (-167063) 1⟩, ⟨0x2F8FF, 0x2F8FF, .shift (-166889) 1⟩,
  ⟨0x2F900, 0x2F900, .shift (-166850) 1⟩, ⟨0x2F901, 0x2F901, .shift (-166794) 1⟩,
  ⟨0x2F902, 0x2F902, .shift (-166849) 1⟩, ⟨0x2F903, 0x2F903, .shift (-166810) 1⟩,
  ⟨0x2F904, 0x2F904, .shift (-166796) 1⟩, ⟨0x2F905, 0x2F905, .shift (-166784) 1⟩,
  ⟨0x2F906, 0x2F906, .shift (-48104) 1⟩, ⟨0x2F907, 0x2F907, .shift (-166867) 1⟩,
  ⟨0x2F908, 0x2F908, .shift (-166617) 1⟩, ⟨0x2F909, 0x2F909, .shift (-166555) 1⟩,
  ⟨0x2F90A, 0x2F90A, .shift (-179159) 1⟩, ⟨0x2F90B, 0x2F90B, .shift (-166464) 1⟩,
  ⟨0x2F90C, 0x2F90C, .shift (-166469) 1⟩, ⟨0x2F90D, 0x2F90D, .shift (-47676) 1⟩,
  ⟨0x2F90E, 0x2F90E, .shift (-166677) 1⟩, ⟨0x2F90F, 0x2F90F, .shift (-166305) 1⟩,
  ⟨0x2F910, 0x2F910, .shift (-47538) 1⟩, ⟨0x2F911, 0x2F911, .shift (-47491) 1⟩,
  ⟨0x2F912, 0x2F912, .shift (-166220) 1⟩, ⟨0x2F913, 0x2F913, .shift (-166106) 1⟩,
  ⟨0x2F914, 0x2F914, .shift (-166134) 1⟩, ⟨0x2F915, 0x2F915, .shift (-166138) 1⟩,
  ⟨0x2F916, 0x2F916, .shift (-179072) 1⟩, ⟨0x2F917, 0x2F917, .shift (-166093) 1⟩,
  ⟨0x2F918, 0x2F918, .shift (-166043) 1⟩, ⟨0x2F919, 0x2F919, .shift (-166050) 1⟩,
  ⟨0x2F91A, 0x2F91A, .shift (-165997) 1⟩, ⟨0x2F91B, 0x2F91B, .shift (-62454) 1⟩,
  ⟨0x2F91C, 0x2F91C, .shift (-165847) 1⟩, ⟨0x2F91D, 0x2F91D, .shift (-46778) 1⟩,
  ⟨0x2F91E, 0x2F91E, .shift (-165762) 1⟩, ⟨0x2F91F, 0x2F91F, .shift (-46452) 1⟩,
  ⟨0x2F920, 0x2F920, .shift (-165624) 1⟩, ⟨0x2F921, 0x2F921, .shift (-165612) 1⟩,
  ⟨0x2F922, 0x2F922, .shift (-165586) 1⟩, ⟨0x2F923, 0x2F923, .shift (-45851) 1⟩,
  ⟨0x2F924, 0x2F924, .shift (-165540) 1⟩, ⟨0x2F925, 0x2F925, .shift (-165520) 1⟩,
  ⟨0x2F926, 0x2F926, .shift (-45553) 1⟩, ⟨0x2F927, 0x2F927, .shift (-45331) 1⟩,
  ⟨0x2F928, 0x2F928, .shift (-165294) 1⟩, ⟨0x2F929, 0x2F929, .shift (-165278) 1⟩,
  ⟨0x2F92A, 0x2F92A, .shift (-178814) 1⟩, ⟨0x2F92B, 0x2F92B, .shift (-165254) 1⟩,
  ⟨0x2F92C, 0x2F92D, .text [0x3EB8]⟩, ⟨0x2F92E, 0x2F92E, .shift (-165095) 1⟩,
  ⟨0x2F92F, 0x2F92F, .shift (-165075) 1⟩, ⟨0x2F930, 0x2F930, .shift (-165055) 1⟩,
  ⟨0x2F931, 0x2F931, .shift (-165036) 1⟩, ⟨0x2F932, 0x2F932, .shift (-164968) 1⟩,
  ⟨0x2F933, 0x2F933, .shift (-178712) 1⟩, ⟨0x2F934, 0x2F934, .shift (-164880) 1⟩,
  ⟨0x2F935, 0x2F935, .shift (-44287) 1⟩, ⟨0x2F936, 0x2F936, .shift (-164856) 1⟩,
  ⟨0x2F937, 0x2F937, .shift (-44197) 1⟩, ⟨0x2F938, 0x2F938, .shift (-164808) 1⟩,
  ⟨0x2F939, 0x2F939, .shift (-55194) 1⟩, ⟨0x2F93A, 0x2F93A, .shift (-164650) 1⟩,
  ⟨0x2F93B, 0x2F93B, .shift (-43418) 1⟩, ⟨0x2F93C, 0x2F93C, .shift (-43396) 1⟩,
  ⟨0x2F93D, 0x2F93D, .shift (-43257) 1⟩, ⟨0x2F93E, 0x2F93E, .shift (-178498) 1⟩,
  ⟨0x2F93F, 0x2F93F, .shift (-178487) 1⟩, ⟨0x2F940, 0x2F940, .shift (-164428) 1⟩,
  ⟨0x2F941, 0x2F941, .shift (-43086) 1⟩, ⟨0x2F942, 0x2F942, .shift (-43088) 1⟩,
  ⟨0x2F943, 0x2F943, .shift (-43050) 1⟩, ⟨0x2F944, 0x2F944, .shift (-43025) 1⟩,
  ⟨0x2F945, 0x2F945, .shift (-164391) 1⟩, ⟨0x2F946, 0x2F947, .text [0x771F]⟩,
  ⟨0x2F948, 0x2F948, .shift (-164350) 1⟩, ⟨0x2F949, 0x2F949, .shift (-178448) 1⟩,
  ⟨0x2F94A, 0x2F94A, .shift (-164287) 1⟩, ⟨0x2F94B, 0x2F94B, .shift (-178437) 1⟩,
  ⟨0x2F94C, 0x2F94C, .shift (-178358) 1⟩, ⟨0x2F94D, 0x2F94D, .shift (-42288) 1⟩,
  ⟨0x2F94E, 0x2F94E, .shift (-164096) 1⟩, ⟨0x2F94F, 0x2F94F, .shift (-164035) 1⟩,
  ⟨0x2F950, 0x2F950, .shift (-163972) 1⟩, ⟨0x2F951, 0x2F951, .shift (-178286) 1⟩,
  ⟨0x2F952, 0x2F952, .shift (-41772) 1⟩, ⟨0x2F953, 0x2F953, .shift (-163837) 1⟩,
  ⟨0x2F954, 0x2F954, .shift (-41658) 1⟩, ⟨0x2F955, 0x2F955, .shift (-41616) 1⟩,
  ⟨0x2F956, 0x2F956, .shift (-163783) 1⟩, ⟨0x2F957, 0x2F957, .shift (-163692) 1⟩,
  ⟨0x2F958, 0x2F958, .shift (-178217) 1⟩, ⟨0x2F959, 0x2F959, .shift (-163609) 1⟩,
  ⟨0x2F95A, 0x2F95A, .shift (-163600) 1⟩, ⟨0x2F95B, 0x2F95B, .shift (-163596) 1⟩,
  ⟨0x2F95C, 0x2F95C, .shift (-40928) 1⟩, ⟨0x2F95D, 0x2F95E, .text [0x25AA7]⟩,
  ⟨0x2F95F, 0x2F95F, .shift (-163441) 1⟩, ⟨0x2F960, 0x2F960, .shift (-178014) 1⟩,
  ⟨0x2F961, 0x2F961, .shift (-40374) 1⟩, ⟨0x2F962, 0x2F962, .shift (-163228) 1⟩,
  ⟨0x2F963, 0x2F963, .shift (-163226) 1⟩, ⟨0x2F964, 0x2F964, .shift (-177981) 1⟩,
  ⟨0x2F965, 0x2F965, .shift (-40165) 1⟩, ⟨0x2F966, 0x2F966, .shift (-162964) 1⟩,
  ⟨0x2F967, 0x2F967, .shift (-177863) 1⟩, ⟨0x2F968, 0x2F968, .shift (-162944) 1⟩,
  ⟨0x2F969, 0x2F969, .shift (-162950) 1⟩, ⟨0x2F96A, 0x2F96A, .shift (-162922) 1⟩,
  ⟨0x2F96B, 0x2F96B, .shift (-39397) 1⟩, ⟨0x2F96C, 0x2F96C, .shift (-162825) 1⟩,
  ⟨0x2F96D, 0x2F96D, .shift (-177772) 1⟩, ⟨0x2F96E, 0x2F96E, .shift (-162727) 1⟩,
  ⟨0x2F96F, 0x2F96F, .shift (-162669) 1⟩, ⟨0x2F970, 0x2F970, .shift (-162603) 1⟩,
  ⟨0x2F971, 0x2F971, .shift (-177725) 1⟩, ⟨0x2F972, 0x2F972, .shift (-38730) 1⟩,
  ⟨0x2F973, 0x2F973, .shift (-38700) 1⟩, ⟨0x2F974, 0x2F974, .shift (-177691) 1⟩,
  ⟨0x2F975, 0x2F975, .shift (-38556) 1⟩, ⟨0x2F976, 0x2F976, .shift (-162300) 1⟩,
  ⟨0x2F977, 0x2F977, .shift (-38457) 1⟩, ⟨0x2F978, 0x2F978, .shift (-162275) 1⟩,
  ⟨0x2F979, 0x2F979, .shift (-162175) 1⟩, ⟨0x2F97A, 0x2F97A, .shift (-162165) 1⟩,
  ⟨0x2F97B, 0x2F97B, .shift (-38049) 1⟩, ⟨0x2F97C, 0x2F97C, .shift (-37977) 1⟩,
  ⟨0x2F97D, 0x2F97D, .shift (-162077) 1⟩, ⟨0x2F97E, 0x2F97E, .shift (-37846) 1⟩,
  ⟨0x2F97F, 0x2F97F, .shift (-162063) 1⟩, ⟨0x2F980, 0x2F980, .shift (-50721) 1⟩,
  ⟨0x2F981, 0x2F981, .shift (-177580) 1⟩, ⟨0x2F982, 0x2F982, .shift (-162000) 1⟩,
  ⟨0x2F983, 0x2F983, .shift (-161920) 1⟩, ⟨0x2F984, 0x2F984, .shift (-177529) 1⟩,
  ⟨0x2F985, 0x2F985, .shift (-161863) 1⟩, ⟨0x2F986, 0x2F986, .shift (-171729) 1⟩,
  ⟨0x2F987, 0x2F987, .shift (-37344) 1⟩, ⟨0x2F988, 0x2F988, .shift (-37331) 1⟩,
  ⟨0x2F989, 0x2F989, .shift (-50678) 1⟩, ⟨0x2F98A, 0x2F98A, .shift (-50670) 1⟩,
  ⟨0x2F98B, 0x2F98B, .shift (-161674) 1⟩, ⟨0x2F98C, 0x2F98C, .shift (-161672) 1⟩,
  ⟨0x2F98D, 0x2F98D, .shift (-158191) 1⟩, ⟨0x2F98E, 0x2F98E, .shift (-177443) 1⟩,
  ⟨0x2F98F, 0x2F98F, .shift (-161534) 1⟩, ⟨0x2F990, 0x2F990, .shift (-161541) 1⟩,
  ⟨0x2F991, 0x2F991, .shift (-161524) 1⟩, ⟨0x2F992, 0x2F992, .shift (-173791) 1⟩,
  ⟨0x2F993, 0x2F993, .shift (-161506) 1⟩, ⟨0x2F994, 0x2F994, .shift (-161505) 1⟩,
  ⟨0x2F995, 0x2F995, .shift (-161496) 1⟩, ⟨0x2F996, 0x2F996, .shift (-161456) 1⟩,
  ⟨0x2F997, 0x2F997, .shift (-36443) 1⟩, ⟨0x2F998, 0x2F998, .shift (-161459) 1⟩,
  ⟨0x2F999, 0x2F999, .shift (-161404) 1⟩, ⟨0x2F99A, 0x2F99A, .shift (-161335) 1⟩,
  ⟨0x2F99B, 0x2F99B, .shift (-161262) 1⟩, ⟨0x2F99C, 0x2F99C, .shift (-161401) 1⟩,
  ⟨0x2F99D, 0x2F99D, .shift (-161248) 1⟩, ⟨0x2F99E, 0x2F99E, .shift (-161207) 1⟩,
  ⟨0x2F99F, 0x2F99F, .shift (-161096) 1⟩, ⟨0x2F9A0, 0x2F9A0, .shift (-161357) 1⟩,
  ⟨0x2F9A1, 0x2F9A1, .shift (-161239) 1⟩, ⟨0x2F9A2, 0x2F9A2, .shift (-161238) 1⟩,
  ⟨0x2F9A3, 0x2F9A3, .shift (-161223) 1⟩, ⟨0x2F9A4, 0x2F9A4, .shift (-36206) 1⟩,
  ⟨0x2F9A5, 0x2F9A5, .shift (-35898) 1⟩, ⟨0x2F9A6, 0x2F9A6, .shift (-36049) 1⟩,
  ⟨0x2F9A7, 0x2F9A7, .shift (-177276) 1⟩, ⟨0x2F9A8, 0x2F9A8, .shift (-160951) 1⟩,
  ⟨0x2F9A9, 0x2F9A9, .shift (-160950) 1⟩, ⟨0x2F9AA, 0x2F9AA, .shift (-160916) 1⟩,
  ⟨0x2F9AB, 0x2F9AB, .shift (-34273) 1⟩, ⟨0x2F9AC, 0x2F9AC, .shift (-160840) 1⟩,
  ⟨0x2F9AD, 0x2F9AD, .shift (-35457) 1⟩, ⟨0x2F9AE, 0x2F9AE, .shift (-177233) 1⟩,
  ⟨0x2F9AF, 0x2F9AF, .shift (-177230) 1⟩, ⟨0x2F9B0, 0x2F9B0, .shift (-35327) 1⟩,
  ⟨0x2F9B1, 0x2F9B1, .shift (-35039) 1⟩, ⟨0x2F9B2, 0x2F9B2, .shift (-177223) 1⟩,
  ⟨0x2F9B3, 0x2F9B3, .shift (-160611) 1⟩, ⟨0x2F9B4, 0x2F9B4, .shift (-160600) 1⟩,
  ⟨0x2F9B5, 0x2F9B5, .shift (-160590) 1⟩, ⟨0x2F9B6, 0x2F9B6, .shift (-160589) 1⟩,
  ⟨0x2F9B7, 0x2F9B7, .shift (-160526) 1⟩, ⟨0x2F9B8, 0x2F9B8, .shift (-160560) 1⟩,
  ⟨0x2F9B9, 0x2F9B9, .shift (-160427) 1⟩, ⟨0x2F9BA, 0x2F9BA, .shift (-160472) 1⟩,
  ⟨0x2F9BB, 0x2F9BB, .shift (-160322) 1⟩, ⟨0x2F9BC, 0x2F9BC, .shift (-160404) 1⟩,
  ⟨0x2F9BD, 0x2F9BD, .shift (-160338) 1⟩, ⟨0x2F9BE, 0x2F9BE, .shift (-160312) 1⟩,
  ⟨0x2F9BF, 0x2F9BF, .shift (-177128) 1⟩, ⟨0x2F9C0, 0x2F9C0, .shift (-160223) 1⟩,
  ⟨0x2F9C1, 0x2F9C1, .shift (-160192) 1⟩, ⟨0x2F9C2, 0x2F9C2, .shift (-177097) 1⟩,
  ⟨0x2F9C3, 0x2F9C3, .shift (-160099) 1⟩, ⟨0x2F9C4, 0x2F9C4, .shift (-160097) 1⟩,
  ⟨0x2F9C5, 0x2F9C5, .shift (-33630) 1⟩, ⟨0x2F9C6, 0x2F9C6, .shift (-159983) 1⟩,
  ⟨0x2F9C7, 0x2F9C7, .shift (-159977) 1⟩, ⟨0x2F9C8, 0x2F9C8, .shift (-177043) 1⟩,
  ⟨0x2F9C9, 0x2F9C9, .shift (-159951) 1⟩, ⟨0x2F9CA, 0x2F9CA, .shift (-181519) 1⟩,
  ⟨0x2F9CB, 0x2F9CB, .shift (-33053) 1⟩, ⟨0x2F9CC, 0x2F9CC, .shift (-32870) 1⟩,
  ⟨0x2F9CD, 0x2F9CD, .shift (-176911) 1⟩, ⟨0x2F9CE, 0x2F9CE, .shift (-176903) 1⟩,
  ⟨0x2F9CF, 0x2F9CF, .shift (-159535) 1⟩, ⟨0x2F9D0, 0x2F9D0, .shift (-159459) 1⟩,
  ⟨0x2F9D1, 0x2F9D1, .shift (-159303) 1⟩, ⟨0x2F9D2, 0x2F9D2, .shift (-159101) 1⟩,
  ⟨0x2F9D3, 0x2F9D3, .shift (-32043) 1⟩, ⟨0x2F9D4, 0x2F9D4, .shift (-159017) 1⟩,
  ⟨0x2F9D5, 0x2F9D5, .shift (-158996) 1⟩, ⟨0x2F9D6, 0x2F9D6, .shift (-158907) 1⟩,
  ⟨0x2F9D7, 0x2F9D7, .shift (-158816) 1⟩, ⟨0x2F9D8, 0x2F9D8, .shift (-31401) 1⟩,
  ⟨0x2F9D9, 0x2F9D9, .shift (-61909) 1⟩, ⟨0x2F9DA, 0x2F9DA, .shift (-158735) 1⟩,
  ⟨0x2F9DB, 0x2F9DB, .shift (-158751) 1⟩, ⟨0x2F9DC, 0x2F9DC, .shift (-158700) 1⟩,
  ⟨0x2F9DD, 0x2F9DD, .shift (-61695) 1⟩, ⟨0x2F9DE, 0x2F9DE, .shift (-158474) 1⟩,
  ⟨0x2F9DF, 0x2F9DF, .shift (-158375) 1⟩, ⟨0x2F9E0, 0x2F9E0, .shift (-29710) 1⟩,
  ⟨0x2F9E1, 0x2F9E1, .shift (-29684) 1⟩, ⟨0x2F9E2, 0x2F9E2, .shift (-158030) 1⟩,
  ⟨0x2F9E3, 0x2F9E3, .shift (-157938) 1⟩, ⟨0x2F9E4, 0x2F9E4, .shift (-157907) 1⟩,
  ⟨0x2F9E5, 0x2F9E5, .shift (-29367) 1⟩, ⟨0x2F9E6, 0x2F9E6, .shift (-157899) 1⟩,
  ⟨0x2F9E7, 0x2F9E7, .shift (-157615) 1⟩, ⟨0x2F9E8, 0x2F9E9, .shift (-157457) 1⟩,
  ⟨0x2F9EA, 0x2F9EA, .shift (-157550) 1⟩, ⟨0x2F9EB, 0x2F9EB, .shift (-157170) 1⟩,
  ⟨0x2F9EC, 0x2F9EC, .shift (-157143) 1⟩, ⟨0x2F9ED, 0x2F9ED, .shift (-28147) 1⟩,
  ⟨0x2F9EE, 0x2F9EE, .shift (-156771) 1⟩, ⟨0x2F9EF, 0x2F9EF, .shift (-176218) 1⟩,
  ⟨0x2F9F0, 0x2F9F0, .shift (-156729) 1⟩, ⟨0x2F9F1, 0x2F9F1, .shift (-27770) 1⟩,
  ⟨0x2F9F2, 0x2F9F2, .shift (-176140) 1⟩, ⟨0x2F9F3, 0x2F9F3, .shift (-156464) 1⟩,
  ⟨0x2F9F4, 0x2F9F4, .shift (-171074) 1⟩, ⟨0x2F9F5, 0x2F9F5, .shift (-156370) 1⟩,
  ⟨0x2F9F6, 0x2F9F6, .shift (-26801) 1⟩, ⟨0x2F9F7, 0x2F9F7, .shift (-26589) 1⟩,
  ⟨0x2F9F8, 0x2F9F8, .shift (-176010) 1⟩, ⟨0x2F9F9, 0x2F9F9, .shift (-176003) 1⟩,
  ⟨0x2F9FA, 0x2F9FA, .shift (-156186) 1⟩, ⟨0x2F9FB, 0x2F9FB, .shift (-26097) 1⟩,
  ⟨0x2F9FC, 0x2F9FC, .shift (-175946) 1⟩, ⟨0x2F9FD, 0x2F9FD, .shift (-25959) 1⟩,
  ⟨0x2F9FE, 0x2F9FF, .text [0x980B]⟩, ⟨0x2FA00, 0x2FA00, .shift (-156119) 1⟩,
  ⟨0x2FA01, 0x2FA01, .shift (-25675) 1⟩, ⟨0x2FA02, 0x2FA02, .shift (-155936) 1⟩,
  ⟨0x2FA03, 0x2FA03, .shift (-175824) 1⟩, ⟨0x2FA04, 0x2FA04, .shift (-155867) 1⟩,
  ⟨0x2FA05, 0x2FA05, .shift (-155742) 1⟩, ⟨0x2FA06, 0x2FA06, .shift (-155716) 1⟩,
  ⟨0x2FA07, 0x2FA07, .shift (-155657) 1⟩, ⟨0x2FA08, 0x2FA08, .shift (-175674) 1⟩,
  ⟨0x2FA09, 0x2FA09, .shift (-24281) 1⟩, ⟨0x2FA0A, 0x2FA0A, .shift (-155384) 1⟩,
  ⟨0x2FA0B, 0x2FA0B, .shift (-155083) 1⟩, ⟨0x2FA0C, 0x2FA0C, .shift (-154895) 1⟩,
  ⟨0x2FA0D, 0x2FA0D, .shift (-175423) 1⟩, ⟨0x2FA0E, 0x2FA0E, .shift (-175393) 1⟩,
  ⟨0x2FA0F, 0x2FA0F, .shift (-154792) 1⟩, ⟨0x2FA10, 0x2FA10, .shift (-22850) 1⟩,
  ⟨0x2FA11, 0x2FA11, .shift (-175385) 1⟩, ⟨0x2FA12, 0x2FA12, .shift (-22797) 1⟩,
  ⟨0x2FA13, 0x2FA13, .shift (-22533) 1⟩, ⟨0x2FA14, 0x2FA14, .shift (-22403) 1⟩,
  ⟨0x2FA15, 0x2FA15, .shift (-154458) 1⟩, ⟨0x2FA16, 0x2FA16, .shift (-175296) 1⟩,
  ⟨0x2FA17, 0x2FA17, .shift (-154398) 1⟩, ⟨0x2FA18, 0x2FA18, .shift (-154394) 1⟩,
  ⟨0x2FA19, 0x2FA19, .shift (-154388) 1⟩, ⟨0x2FA1A, 0x2FA1A, .shift (-154379) 1⟩,
  ⟨0x2FA1B, 0x2FA1B, .shift (-154373) 1⟩, ⟨0x2FA1C, 0x2FA1C, .shift (-154337) 1⟩,
  ⟨0x2FA1D, 0x2FA1D, .shift (-21533) 1⟩, ⟨0x2FA1E, 0x2FFFF, .disallowed⟩,
  ⟨0x30000, 0x3134A, .valid⟩, ⟨0x3134B, 0x3134F, .disallowed⟩, ⟨0x31350, 0x33479, .valid⟩,
  ⟨0x3347A, 0xE00FF, .disallowed⟩, ⟨0xE0100, 0xE01EF, .ignored⟩,
  ⟨0xE01F0, 0x10FFFF, .disallowed⟩]

/-- The runs, in order, covering every code point. -/
def runs : Array Run :=
  (runsFrom0 ++
    runsFromE34 ++
    runsFrom209D ++
    runsFrom316D ++
    runsFrom33FF ++
    runsFromFA94 ++
    runsFromFD6A ++
    runsFrom10F5A ++
    runsFrom1DF00 ++
    runsFrom2F84F).toArray

/-- The index of the run of `rs` that holds `n`, searched between `lo` and
`hi` (the run at `lo` starts at or below `n`). -/
def findRun (rs : Array Run) (n lo hi : Nat) : Nat :=
  if lo + 1 < hi then
    let mid := (lo + hi) / 2
    if (rs[mid]?.map (·.lo)).getD 0 ≤ n then findRun rs n mid hi else findRun rs n lo mid
  else lo
termination_by hi - lo

/-- The run that holds a code point. -/
def runOf (n : Nat) : Run := runs[findRun runs n 0 runs.size]?.getD ⟨n, n, .disallowed⟩

/-- How a code point is mapped: `some` text it becomes (itself when kept,
nothing when dropped), or `none` when it is refused. -/
def mapCode (n : Nat) : Option (List Nat) :=
  let r := runOf n
  match r.treatment with
  | .valid => some [n]
  | .ignored => some []
  | .disallowed => none
  | .shift d step => if (n - r.lo) % step = 0 then some [Int.toNat (n + d)] else some [n]
  | .text t => some t

/-- Whether a code point may stand in a domain as it is. -/
def isValidCode (n : Nat) : Bool := mapCode n == some [n]

end Typeahead.Domain
