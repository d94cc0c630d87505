/-
**Script extensions.**

Some characters are used with several scripts: they belong to one of them, or to the common and
inherited ones, which gather what is shared.  The tables list what is used with a script beyond
its own ranges; of the common and the inherited script they list what is left when the characters
used with particular scripts are taken away.

Main definitions:

* `usedWith` — the characters used with a script.
-/

import CardQuery.Unicode.Script

set_option autoImplicit false

namespace CardQuery.Unicode

/-- Characters of other scripts used with Adlam. -/
def sharedAdlam : Ranges := [
  (0x61F, 0x61F), (0x640, 0x640), (0x204F, 0x204F), (0x2E41, 0x2E41)]

/-- Characters of other scripts used with Arabic. -/
def sharedArabic : Ranges := [
  (0x60C, 0x60C), (0x61B, 0x61B), (0x61F, 0x61F), (0x640, 0x640), (0x64B, 0x655), (0x670, 0x670),
  (0x204F, 0x204F), (0x2E41, 0x2E41), (0xFD3E, 0xFD3F), (0x102E0, 0x102FB)]

/-- Characters of other scripts used with Armenian. -/
def sharedArmenian : Ranges := [
  (0x308, 0x308)]

/-- Characters of other scripts used with Avestan. -/
def sharedAvestan : Ranges := [
  (0xB7, 0xB7), (0x2E30, 0x2E31)]

/-- Characters of other scripts used with Bengali. -/
def sharedBengali : Ranges := [
  (0x2BC, 0x2BC), (0x951, 0x952), (0x964, 0x965), (0x1CD0, 0x1CD0), (0x1CD2, 0x1CD2),
  (0x1CD5, 0x1CD6), (0x1CD8, 0x1CD8), (0x1CE1, 0x1CE1), (0x1CEA, 0x1CEA), (0x1CED, 0x1CED),
  (0x1CF2, 0x1CF2), (0x1CF5, 0x1CF7), (0xA8F1, 0xA8F1)]

/-- Characters of other scripts used with Bopomofo. -/
def sharedBopomofo : Ranges := [
  (0x2C7, 0x2C7), (0x2C9, 0x2CB), (0x2D9, 0x2D9), (0x3001, 0x3003), (0x3008, 0x3011),
  (0x3013, 0x301F), (0x302A, 0x302D), (0x3030, 0x3030), (0x3037, 0x3037), (0x30FB, 0x30FB),
  (0xFE45, 0xFE46), (0xFF61, 0xFF65)]

/-- Characters of other scripts used with Buginese. -/
def sharedBuginese : Ranges := [
  (0xA9CF, 0xA9CF)]

/-- Characters of other scripts used with Buhid. -/
def sharedBuhid : Ranges := [
  (0x1735, 0x1736)]

/-- Characters of other scripts used with Carian. -/
def sharedCarian : Ranges := [
  (0xB7, 0xB7), (0x205A, 0x205A), (0x205D, 0x205D), (0x2E31, 0x2E31)]

/-- Characters of other scripts used with Caucasian Albanian. -/
def sharedCaucasianAlbanian : Ranges := [
  (0x304, 0x304), (0x331, 0x331), (0x35E, 0x35E)]

/-- Characters of other scripts used with Chakma. -/
def sharedChakma : Ranges := [
  (0x9E6, 0x9EF), (0x1040, 0x1049)]

/-- Characters of other scripts used with Cherokee. -/
def sharedCherokee : Ranges := [
  (0x300, 0x302), (0x304, 0x304), (0x30B, 0x30C), (0x323, 0x324), (0x330, 0x331)]

/-- Characters of the script Common that are used with no particular one. -/
def onlyCommon : Ranges := [
  (0x0, 0x40), (0x5B, 0x60), (0x7B, 0xA9), (0xAB, 0xB6), (0xB8, 0xB9), (0xBB, 0xBF), (0xD7, 0xD7),
  (0xF7, 0xF7), (0x2B9, 0x2BB), (0x2BD, 0x2C6), (0x2C8, 0x2C8), (0x2CC, 0x2CC), (0x2CE, 0x2D6),
  (0x2D8, 0x2D8), (0x2DA, 0x2DF), (0x2E5, 0x2E9), (0x2EC, 0x2FF), (0x37E, 0x37E), (0x385, 0x385),
  (0x387, 0x387), (0x605, 0x605), (0x6DD, 0x6DD), (0x8E2, 0x8E2), (0xE3F, 0xE3F), (0xFD5, 0xFD8),
  (0x2000, 0x200B), (0x200E, 0x202E), (0x2030, 0x204E), (0x2050, 0x2059), (0x205B, 0x205C),
  (0x205E, 0x2064), (0x2066, 0x2070), (0x2074, 0x207E), (0x2080, 0x208E), (0x20A0, 0x20C0),
  (0x2100, 0x2125), (0x2127, 0x2129), (0x212C, 0x2131), (0x2133, 0x214D), (0x214F, 0x215F),
  (0x2189, 0x218B), (0x2190, 0x2429), (0x2440, 0x244A), (0x2460, 0x27FF), (0x2900, 0x2B73),
  (0x2B76, 0x2B95), (0x2B97, 0x2BFF), (0x2E00, 0x2E16), (0x2E18, 0x2E2F), (0x2E32, 0x2E3B),
  (0x2E3D, 0x2E40), (0x2E42, 0x2E42), (0x2E44, 0x2E5D), (0x3000, 0x3000), (0x3004, 0x3004),
  (0x3012, 0x3012), (0x3020, 0x3020), (0x3036, 0x3036), (0x3248, 0x325F), (0x327F, 0x327F),
  (0x32B1, 0x32BF), (0x32CC, 0x32CF), (0x3371, 0x337A), (0x3380, 0x33DF), (0x33FF, 0x33FF),
  (0x4DC0, 0x4DFF), (0xA708, 0xA721), (0xA788, 0xA78A), (0xAB5B, 0xAB5B), (0xAB6A, 0xAB6B),
  (0xFE10, 0xFE19), (0xFE30, 0xFE44), (0xFE47, 0xFE52), (0xFE54, 0xFE66), (0xFE68, 0xFE6B),
  (0xFEFF, 0xFEFF), (0xFF01, 0xFF20), (0xFF3B, 0xFF40), (0xFF5B, 0xFF60), (0xFFE0, 0xFFE6),
  (0xFFE8, 0xFFEE), (0xFFF9, 0xFFFD), (0x10190, 0x1019C), (0x101D0, 0x101FC), (0x1CC00, 0x1CCF9),
  (0x1CD00, 0x1CEB3), (0x1CF50, 0x1CFC3), (0x1D000, 0x1D0F5), (0x1D100, 0x1D126),
  (0x1D129, 0x1D166), (0x1D16A, 0x1D17A), (0x1D183, 0x1D184), (0x1D18C, 0x1D1A9),
  (0x1D1AE, 0x1D1EA), (0x1D2C0, 0x1D2D3), (0x1D2E0, 0x1D2F3), (0x1D300, 0x1D356),
  (0x1D372, 0x1D378), (0x1D400, 0x1D454), (0x1D456, 0x1D49C), (0x1D49E, 0x1D49F),
  (0x1D4A2, 0x1D4A2), (0x1D4A5, 0x1D4A6), (0x1D4A9, 0x1D4AC), (0x1D4AE, 0x1D4B9),
  (0x1D4BB, 0x1D4BB), (0x1D4BD, 0x1D4C3), (0x1D4C5, 0x1D505), (0x1D507, 0x1D50A),
  (0x1D50D, 0x1D514), (0x1D516, 0x1D51C), (0x1D51E, 0x1D539), (0x1D53B, 0x1D53E),
  (0x1D540, 0x1D544), (0x1D546, 0x1D546), (0x1D54A, 0x1D550), (0x1D552, 0x1D6A5),
  (0x1D6A8, 0x1D7CB), (0x1D7CE, 0x1D7FF), (0x1EC71, 0x1ECB4), (0x1ED01, 0x1ED3D),
  (0x1F000, 0x1F02B), (0x1F030, 0x1F093), (0x1F0A0, 0x1F0AE), (0x1F0B1, 0x1F0BF),
  (0x1F0C1, 0x1F0CF), (0x1F0D1, 0x1F0F5), (0x1F100, 0x1F1AD), (0x1F1E6, 0x1F1FF),
  (0x1F201, 0x1F202), (0x1F210, 0x1F23B), (0x1F240, 0x1F248), (0x1F260, 0x1F265),
  (0x1F300, 0x1F6D7), (0x1F6DC, 0x1F6EC), (0x1F6F0, 0x1F6FC), (0x1F700, 0x1F776),
  (0x1F77B, 0x1F7D9), (0x1F7E0, 0x1F7EB), (0x1F7F0, 0x1F7F0), (0x1F800, 0x1F80B),
  (0x1F810, 0x1F847), (0x1F850, 0x1F859), (0x1F860, 0x1F887), (0x1F890, 0x1F8AD),
  (0x1F8B0, 0x1F8BB), (0x1F8C0, 0x1F8C1), (0x1F900, 0x1FA53), (0x1FA60, 0x1FA6D),
  (0x1FA70, 0x1FA7C), (0x1FA80, 0x1FA89), (0x1FA8F, 0x1FAC6), (0x1FACE, 0x1FADC),
  (0x1FADF, 0x1FAE9), (0x1FAF0, 0x1FAF8), (0x1FB00, 0x1FB92), (0x1FB94, 0x1FBF9),
  (0xE0001, 0xE0001), (0xE0020, 0xE007F)]

/-- Characters of other scripts used with Coptic. -/
def sharedCoptic : Ranges := [
  (0xB7, 0xB7), (0x300, 0x300), (0x304, 0x305), (0x307, 0x307), (0x374, 0x375), (0x2E17, 0x2E17),
  (0x102E0, 0x102FB)]

/-- Characters of other scripts used with Cypriot. -/
def sharedCypriot : Ranges := [
  (0x10100, 0x10102), (0x10107, 0x10133), (0x10137, 0x1013F)]

/-- Characters of other scripts used with Cypro Minoan. -/
def sharedCyproMinoan : Ranges := [
  (0x10100, 0x10101)]

/-- Characters of other scripts used with Cyrillic. -/
def sharedCyrillic : Ranges := [
  (0x2BC, 0x2BC), (0x300, 0x302), (0x304, 0x304), (0x306, 0x306), (0x308, 0x308), (0x30B, 0x30B),
  (0x311, 0x311), (0x485, 0x486), (0x1DF8, 0x1DF8), (0x2E43, 0x2E43)]

/-- Characters of other scripts used with Devanagari. -/
def sharedDevanagari : Ranges := [
  (0x2BC, 0x2BC), (0x951, 0x952), (0x964, 0x965), (0x1CD0, 0x1CF6), (0x1CF8, 0x1CF9),
  (0x20F0, 0x20F0), (0xA830, 0xA839)]

/-- Characters of other scripts used with Dogra. -/
def sharedDogra : Ranges := [
  (0x964, 0x96F), (0xA830, 0xA839)]

/-- Characters of other scripts used with Duployan. -/
def sharedDuployan : Ranges := [
  (0xB7, 0xB7), (0x307, 0x308), (0x30A, 0x30A), (0x323, 0x324), (0x2E3C, 0x2E3C),
  (0x1BCA0, 0x1BCA3)]

/-- Characters of other scripts used with Elbasan. -/
def sharedElbasan : Ranges := [
  (0xB7, 0xB7), (0x305, 0x305)]

/-- Characters of other scripts used with Ethiopic. -/
def sharedEthiopic : Ranges := [
  (0x30E, 0x30E)]

/-- Characters of other scripts used with Garay. -/
def sharedGaray : Ranges := [
  (0x60C, 0x60C), (0x61B, 0x61B), (0x61F, 0x61F)]

/-- Characters of other scripts used with Georgian. -/
def sharedGeorgian : Ranges := [
  (0xB7, 0xB7), (0x589, 0x589), (0x10FB, 0x10FB), (0x205A, 0x205A), (0x2E31, 0x2E31)]

/-- Characters of other scripts used with Glagolitic. -/
def sharedGlagolitic : Ranges := [
  (0xB7, 0xB7), (0x303, 0x303), (0x305, 0x305), (0x484, 0x484), (0x487, 0x487), (0x589, 0x589),
  (0x10FB, 0x10FB), (0x205A, 0x205A), (0x2E43, 0x2E43), (0xA66F, 0xA66F)]

/-- Characters of other scripts used with Gothic. -/
def sharedGothic : Ranges := [
  (0xB7, 0xB7), (0x304, 0x305), (0x308, 0x308), (0x331, 0x331)]

/-- Characters of other scripts used with Grantha. -/
def sharedGrantha : Ranges := [
  (0x951, 0x952), (0x964, 0x965), (0xBE6, 0xBF3), (0x1CD0, 0x1CD0), (0x1CD2, 0x1CD3),
  (0x1CF2, 0x1CF4), (0x1CF8, 0x1CF9), (0x20F0, 0x20F0), (0x1133B, 0x1133B), (0x11FD0, 0x11FD1),
  (0x11FD3, 0x11FD3)]

/-- Characters of other scripts used with Greek. -/
def sharedGreek : Ranges := [
  (0xB7, 0xB7), (0x300, 0x301), (0x304, 0x304), (0x306, 0x306), (0x308, 0x308), (0x313, 0x313),
  (0x342, 0x342), (0x345, 0x345), (0x374, 0x374), (0x1DC0, 0x1DC1), (0x205D, 0x205D)]

/-- Characters of other scripts used with Gujarati. -/
def sharedGujarati : Ranges := [
  (0x951, 0x952), (0x964, 0x965), (0xA830, 0xA839)]

/-- Characters of other scripts used with Gunjala Gondi. -/
def sharedGunjalaGondi : Ranges := [
  (0xB7, 0xB7), (0x964, 0x965)]

/-- Characters of other scripts used with Gurmukhi. -/
def sharedGurmukhi : Ranges := [
  (0x951, 0x952), (0x964, 0x965), (0xA830, 0xA839)]

/-- Characters of other scripts used with Gurung Khema. -/
def sharedGurungKhema : Ranges := [
  (0x965, 0x965)]

/-- Characters of other scripts used with Han. -/
def sharedHan : Ranges := [
  (0xB7, 0xB7), (0x2FF0, 0x2FFF), (0x3001, 0x3003), (0x3006, 0x3006), (0x3008, 0x3011),
  (0x3013, 0x301F), (0x302A, 0x302D), (0x3030, 0x3030), (0x3037, 0x3037), (0x303C, 0x303F),
  (0x30FB, 0x30FB), (0x3190, 0x319F), (0x31C0, 0x31E5), (0x31EF, 0x31EF), (0x3220, 0x3247),
  (0x3280, 0x32B0), (0x32C0, 0x32CB), (0x32FF, 0x32FF), (0x3358, 0x3370), (0x337B, 0x337F),
  (0x33E0, 0x33FE), (0xA700, 0xA707), (0xFE45, 0xFE46), (0xFF61, 0xFF65), (0x1D360, 0x1D371),
  (0x1F250, 0x1F251)]

/-- Characters of other scripts used with Hangul. -/
def sharedHangul : Ranges := [
  (0x3001, 0x3003), (0x3008, 0x3011), (0x3013, 0x301F), (0x3030, 0x3030), (0x3037, 0x3037),
  (0x30FB, 0x30FB), (0xFE45, 0xFE46), (0xFF61, 0xFF65)]

/-- Characters of other scripts used with Hanifi Rohingya. -/
def sharedHanifiRohingya : Ranges := [
  (0x60C, 0x60C), (0x61B, 0x61B), (0x61F, 0x61F), (0x640, 0x640), (0x6D4, 0x6D4)]

/-- Characters of other scripts used with Hanunoo. -/
def sharedHanunoo : Ranges := [
  (0x1735, 0x1736)]

/-- Characters of other scripts used with Hebrew. -/
def sharedHebrew : Ranges := [
  (0x307, 0x308)]

/-- Characters of other scripts used with Hiragana. -/
def sharedHiragana : Ranges := [
  (0x3001, 0x3003), (0x3008, 0x3011), (0x3013, 0x301F), (0x3030, 0x3035), (0x3037, 0x3037),
  (0x303C, 0x303D), (0x3099, 0x309C), (0x30A0, 0x30A0), (0x30FB, 0x30FC), (0xFE45, 0xFE46),
  (0xFF61, 0xFF65), (0xFF70, 0xFF70), (0xFF9E, 0xFF9F)]

/-- Characters of the script Inherited that are used with no particular one. -/
def onlyInherited : Ranges := [
  (0x30F, 0x30F), (0x312, 0x312), (0x314, 0x322), (0x326, 0x32C), (0x32F, 0x32F), (0x332, 0x341),
  (0x343, 0x344), (0x346, 0x357), (0x359, 0x35D), (0x35F, 0x362), (0x953, 0x954), (0x1AB0, 0x1ACE),
  (0x1DC2, 0x1DF7), (0x1DF9, 0x1DF9), (0x1DFB, 0x1DFF), (0x200C, 0x200D), (0x20D0, 0x20EF),
  (0xFE00, 0xFE0F), (0xFE20, 0xFE2D), (0x101FD, 0x101FD), (0x1CF00, 0x1CF2D), (0x1CF30, 0x1CF46),
  (0x1D167, 0x1D169), (0x1D17B, 0x1D182), (0x1D185, 0x1D18B), (0x1D1AA, 0x1D1AD),
  (0xE0100, 0xE01EF)]

/-- Characters of other scripts used with Javanese. -/
def sharedJavanese : Ranges := [
  (0xA9CF, 0xA9CF)]

/-- Characters of other scripts used with Kaithi. -/
def sharedKaithi : Ranges := [
  (0x966, 0x96F), (0x2E31, 0x2E31), (0xA830, 0xA839)]

/-- Characters of other scripts used with Kannada. -/
def sharedKannada : Ranges := [
  (0x951, 0x952), (0x964, 0x965), (0x1CD0, 0x1CD0), (0x1CD2, 0x1CD3), (0x1CDA, 0x1CDA),
  (0x1CF2, 0x1CF2), (0x1CF4, 0x1CF4), (0xA830, 0xA835)]

/-- Characters of other scripts used with Katakana. -/
def sharedKatakana : Ranges := [
  (0x305, 0x305), (0x323, 0x323), (0x3001, 0x3003), (0x3008, 0x3011), (0x3013, 0x301F),
  (0x3030, 0x3035), (0x3037, 0x3037), (0x303C, 0x303D), (0x3099, 0x309C), (0x30A0, 0x30A0),
  (0x30FB, 0x30FC), (0xFE45, 0xFE46), (0xFF61, 0xFF65), (0xFF70, 0xFF70), (0xFF9E, 0xFF9F)]

/-- Characters of other scripts used with Kayah Li. -/
def sharedKayahLi : Ranges := [
  (0xA92E, 0xA92E)]

/-- Characters of other scripts used with Khojki. -/
def sharedKhojki : Ranges := [
  (0xAE6, 0xAEF), (0xA830, 0xA839)]

/-- Characters of other scripts used with Khudawadi. -/
def sharedKhudawadi : Ranges := [
  (0x964, 0x965), (0xA830, 0xA839)]

/-- Characters of other scripts used with Latin. -/
def sharedLatin : Ranges := [
  (0xB7, 0xB7), (0x2BC, 0x2BC), (0x2C7, 0x2C7), (0x2C9, 0x2CB), (0x2CD, 0x2CD), (0x2D7, 0x2D7),
  (0x2D9, 0x2D9), (0x300, 0x30E), (0x310, 0x311), (0x313, 0x313), (0x323, 0x325), (0x32D, 0x32E),
  (0x330, 0x331), (0x358, 0x358), (0x35E, 0x35E), (0x363, 0x36F), (0x485, 0x486), (0x951, 0x952),
  (0x10FB, 0x10FB), (0x1DF8, 0x1DF8), (0x202F, 0x202F), (0x20F0, 0x20F0), (0x2E17, 0x2E17),
  (0xA700, 0xA707), (0xA92E, 0xA92E)]

/-- Characters of other scripts used with Limbu. -/
def sharedLimbu : Ranges := [
  (0x965, 0x965)]

/-- Characters of other scripts used with Linear A. -/
def sharedLinearA : Ranges := [
  (0x10107, 0x10133)]

/-- Characters of other scripts used with Linear B. -/
def sharedLinearB : Ranges := [
  (0x10100, 0x10102), (0x10107, 0x10133), (0x10137, 0x1013F)]

/-- Characters of other scripts used with Lisu. -/
def sharedLisu : Ranges := [
  (0x2BC, 0x2BC), (0x2CD, 0x2CD), (0x300A, 0x300B)]

/-- Characters of other scripts used with Lycian. -/
def sharedLycian : Ranges := [
  (0x205A, 0x205A)]

/-- Characters of other scripts used with Lydian. -/
def sharedLydian : Ranges := [
  (0xB7, 0xB7), (0x2E31, 0x2E31)]

/-- Characters of other scripts used with Mahajani. -/
def sharedMahajani : Ranges := [
  (0xB7, 0xB7), (0x964, 0x96F), (0xA830, 0xA839)]

/-- Characters of other scripts used with Malayalam. -/
def sharedMalayalam : Ranges := [
  (0x951, 0x952), (0x964, 0x965), (0x1CDA, 0x1CDA), (0x1CF2, 0x1CF2), (0xA830, 0xA832)]

/-- Characters of other scripts used with Mandaic. -/
def sharedMandaic : Ranges := [
  (0x640, 0x640)]

/-- Characters of other scripts used with Manichaean. -/
def sharedManichaean : Ranges := [
  (0x640, 0x640)]

/-- Characters of other scripts used with Masaram Gondi. -/
def sharedMasaramGondi : Ranges := [
  (0x964, 0x965)]

/-- Characters of other scripts used with Meroitic Hieroglyphs. -/
def sharedMeroiticHieroglyphs : Ranges := [
  (0x205D, 0x205D)]

/-- Characters of other scripts used with Modi. -/
def sharedModi : Ranges := [
  (0xA830, 0xA839)]

/-- Characters of other scripts used with Mongolian. -/
def sharedMongolian : Ranges := [
  (0x1802, 0x1803), (0x1805, 0x1805), (0x202F, 0x202F), (0x3001, 0x3002), (0x3008, 0x300B)]

/-- Characters of other scripts used with Multani. -/
def sharedMultani : Ranges := [
  (0xA66, 0xA6F)]

/-- Characters of other scripts used with Myanmar. -/
def sharedMyanmar : Ranges := [
  (0xA92E, 0xA92E)]

/-- Characters of other scripts used with Nandinagari. -/
def sharedNandinagari : Ranges := [
  (0x951, 0x951), (0x964, 0x965), (0xCE6, 0xCEF), (0x1CE9, 0x1CE9), (0x1CF2, 0x1CF2),
  (0x1CFA, 0x1CFA), (0xA830, 0xA835)]

/-- Characters of other scripts used with Newa. -/
def sharedNewa : Ranges := [
  (0x951, 0x952), (0x1CD5, 0x1CD5), (0x1CD7, 0x1CD8), (0x1CE2, 0x1CE2), (0x1CE9, 0x1CE9),
  (0x1CEB, 0x1CEB), (0x1CED, 0x1CED)]

/-- Characters of other scripts used with Nko. -/
def sharedNko : Ranges := [
  (0x60C, 0x60C), (0x61B, 0x61B), (0x61F, 0x61F), (0xFD3E, 0xFD3F)]

/-- Characters of other scripts used with Ol Onal. -/
def sharedOlOnal : Ranges := [
  (0x964, 0x965)]

/-- Characters of other scripts used with Old Hungarian. -/
def sharedOldHungarian : Ranges := [
  (0x205A, 0x205A), (0x205D, 0x205D), (0x2E31, 0x2E31), (0x2E41, 0x2E41)]

/-- Characters of other scripts used with Old Permic. -/
def sharedOldPermic : Ranges := [
  (0xB7, 0xB7), (0x300, 0x300), (0x306, 0x308), (0x313, 0x313), (0x483, 0x483)]

/-- Characters of other scripts used with Old Turkic. -/
def sharedOldTurkic : Ranges := [
  (0x205A, 0x205A), (0x2E30, 0x2E30)]

/-- Characters of other scripts used with Old Uyghur. -/
def sharedOldUyghur : Ranges := [
  (0x640, 0x640), (0x10AF2, 0x10AF2)]

/-- Characters of other scripts used with Oriya. -/
def sharedOriya : Ranges := [
  (0x951, 0x952), (0x964, 0x965), (0x1CDA, 0x1CDA), (0x1CF2, 0x1CF2)]

/-- Characters of other scripts used with Osage. -/
def sharedOsage : Ranges := [
  (0x301, 0x301), (0x304, 0x304), (0x30B, 0x30B), (0x358, 0x358)]

/-- Characters of other scripts used with Phags Pa. -/
def sharedPhagsPa : Ranges := [
  (0x1802, 0x1803), (0x1805, 0x1805), (0x202F, 0x202F), (0x3002, 0x3002)]

/-- Characters of other scripts used with Psalter Pahlavi. -/
def sharedPsalterPahlavi : Ranges := [
  (0x640, 0x640)]

/-- Characters of other scripts used with Runic. -/
def sharedRunic : Ranges := [
  (0x16EB, 0x16ED)]

/-- Characters of other scripts used with Samaritan. -/
def sharedSamaritan : Ranges := [
  (0x2E31, 0x2E31)]

/-- Characters of other scripts used with Sharada. -/
def sharedSharada : Ranges := [
  (0x951, 0x951), (0x1CD7, 0x1CD7), (0x1CD9, 0x1CD9), (0x1CDC, 0x1CDD), (0x1CE0, 0x1CE0),
  (0x1CEA, 0x1CEA), (0x1CED, 0x1CED), (0xA830, 0xA835), (0xA838, 0xA838)]

/-- Characters of other scripts used with Shavian. -/
def sharedShavian : Ranges := [
  (0xB7, 0xB7)]

/-- Characters of other scripts used with Sinhala. -/
def sharedSinhala : Ranges := [
  (0x964, 0x965), (0x1CF2, 0x1CF2)]

/-- Characters of other scripts used with Sogdian. -/
def sharedSogdian : Ranges := [
  (0x640, 0x640)]

/-- Characters of other scripts used with Sunuwar. -/
def sharedSunuwar : Ranges := [
  (0x300, 0x301), (0x303, 0x303), (0x30D, 0x30D), (0x310, 0x310), (0x32D, 0x32D), (0x331, 0x331)]

/-- Characters of other scripts used with Syloti Nagri. -/
def sharedSylotiNagri : Ranges := [
  (0x964, 0x965), (0x9E6, 0x9EF)]

/-- Characters of other scripts used with Syriac. -/
def sharedSyriac : Ranges := [
  (0x303, 0x304), (0x307, 0x308), (0x30A, 0x30A), (0x323, 0x325), (0x32D, 0x32E), (0x330, 0x331),
  (0x60C, 0x60C), (0x61B, 0x61C), (0x61F, 0x61F), (0x640, 0x640), (0x64B, 0x655), (0x670, 0x670),
  (0x1DF8, 0x1DF8), (0x1DFA, 0x1DFA)]

/-- Characters of other scripts used with Tagalog. -/
def sharedTagalog : Ranges := [
  (0x1735, 0x1736)]

/-- Characters of other scripts used with Tagbanwa. -/
def sharedTagbanwa : Ranges := [
  (0x1735, 0x1736)]

/-- Characters of other scripts used with Tai Le. -/
def sharedTaiLe : Ranges := [
  (0x300, 0x301), (0x307, 0x308), (0x30C, 0x30C), (0x1040, 0x1049)]

/-- Characters of other scripts used with Takri. -/
def sharedTakri : Ranges := [
  (0x964, 0x965), (0xA830, 0xA839)]

/-- Characters of other scripts used with Tamil. -/
def sharedTamil : Ranges := [
  (0x951, 0x952), (0x964, 0x965), (0x1CDA, 0x1CDA), (0xA8F3, 0xA8F3), (0x11301, 0x11301),
  (0x11303, 0x11303), (0x1133B, 0x1133C)]

/-- Characters of other scripts used with Tangut. -/
def sharedTangut : Ranges := [
  (0x2FF0, 0x2FFF), (0x31EF, 0x31EF)]

/-- Characters of other scripts used with Telugu. -/
def sharedTelugu : Ranges := [
  (0x951, 0x952), (0x964, 0x965), (0x1CD5, 0x1CD6), (0x1CD8, 0x1CD8), (0x1CDA, 0x1CDA),
  (0x1CF2, 0x1CF2)]

/-- Characters of other scripts used with Thaana. -/
def sharedThaana : Ranges := [
  (0x60C, 0x60C), (0x61B, 0x61C), (0x61F, 0x61F), (0x660, 0x669), (0xFDF2, 0xFDF2),
  (0xFDFD, 0xFDFD)]

/-- Characters of other scripts used with Thai. -/
def sharedThai : Ranges := [
  (0x2BC, 0x2BC), (0x2D7, 0x2D7), (0x303, 0x303), (0x331, 0x331)]

/-- Characters of other scripts used with Tibetan. -/
def sharedTibetan : Ranges := [
  (0x3008, 0x300B)]

/-- Characters of other scripts used with Tifinagh. -/
def sharedTifinagh : Ranges := [
  (0x302, 0x302), (0x304, 0x304), (0x306, 0x309), (0x323, 0x323)]

/-- Characters of other scripts used with Tirhuta. -/
def sharedTirhuta : Ranges := [
  (0x951, 0x952), (0x964, 0x965), (0x1CD5, 0x1CD5), (0x1CE2, 0x1CE2), (0x1CF2, 0x1CF2),
  (0xA830, 0xA839)]

/-- Characters of other scripts used with Todhri. -/
def sharedTodhri : Ranges := [
  (0x301, 0x301), (0x304, 0x304), (0x307, 0x307), (0x311, 0x311), (0x313, 0x313), (0x35E, 0x35E)]

/-- Characters of other scripts used with Toto. -/
def sharedToto : Ranges := [
  (0x2BC, 0x2BC)]

/-- Characters of other scripts used with Tulu Tigalari. -/
def sharedTuluTigalari : Ranges := [
  (0xCE6, 0xCEF), (0x1CF2, 0x1CF2), (0x1CF4, 0x1CF4), (0xA830, 0xA835), (0xA8F1, 0xA8F1)]

/-- Characters of other scripts used with Yezidi. -/
def sharedYezidi : Ranges := [
  (0x60C, 0x60C), (0x61B, 0x61B), (0x61F, 0x61F), (0x660, 0x669)]

/-- Characters of other scripts used with Yi. -/
def sharedYi : Ranges := [
  (0x3001, 0x3002), (0x3008, 0x3011), (0x3014, 0x301B), (0x30FB, 0x30FB), (0xFF61, 0xFF65)]

/-- The scripts with which characters of others are used, under their long names. -/
def sharedRanges : List (String × Ranges) := [
  ("adlam", sharedAdlam), ("arabic", sharedArabic), ("armenian", sharedArmenian),
  ("avestan", sharedAvestan), ("bengali", sharedBengali), ("bopomofo", sharedBopomofo),
  ("buginese", sharedBuginese), ("buhid", sharedBuhid), ("carian", sharedCarian),
  ("caucasianalbanian", sharedCaucasianAlbanian), ("chakma", sharedChakma),
  ("cherokee", sharedCherokee), ("coptic", sharedCoptic), ("cypriot", sharedCypriot),
  ("cyprominoan", sharedCyproMinoan), ("cyrillic", sharedCyrillic),
  ("devanagari", sharedDevanagari), ("dogra", sharedDogra), ("duployan", sharedDuployan),
  ("elbasan", sharedElbasan), ("ethiopic", sharedEthiopic), ("garay", sharedGaray),
  ("georgian", sharedGeorgian), ("glagolitic", sharedGlagolitic), ("gothic", sharedGothic),
  ("grantha", sharedGrantha), ("greek", sharedGreek), ("gujarati", sharedGujarati),
  ("gunjalagondi", sharedGunjalaGondi), ("gurmukhi", sharedGurmukhi),
  ("gurungkhema", sharedGurungKhema), ("han", sharedHan), ("hangul", sharedHangul),
  ("hanifirohingya", sharedHanifiRohingya), ("hanunoo", sharedHanunoo), ("hebrew", sharedHebrew),
  ("hiragana", sharedHiragana), ("javanese", sharedJavanese), ("kaithi", sharedKaithi),
  ("kannada", sharedKannada), ("katakana", sharedKatakana), ("kayahli", sharedKayahLi),
  ("khojki", sharedKhojki), ("khudawadi", sharedKhudawadi), ("latin", sharedLatin),
  ("limbu", sharedLimbu), ("lineara", sharedLinearA), ("linearb", sharedLinearB),
  ("lisu", sharedLisu), ("lycian", sharedLycian), ("lydian", sharedLydian),
  ("mahajani", sharedMahajani), ("malayalam", sharedMalayalam), ("mandaic", sharedMandaic),
  ("manichaean", sharedManichaean), ("masaramgondi", sharedMasaramGondi),
  ("meroitichieroglyphs", sharedMeroiticHieroglyphs), ("modi", sharedModi),
  ("mongolian", sharedMongolian), ("multani", sharedMultani), ("myanmar", sharedMyanmar),
  ("nandinagari", sharedNandinagari), ("newa", sharedNewa), ("nko", sharedNko),
  ("olonal", sharedOlOnal), ("oldhungarian", sharedOldHungarian), ("oldpermic", sharedOldPermic),
  ("oldturkic", sharedOldTurkic), ("olduyghur", sharedOldUyghur), ("oriya", sharedOriya),
  ("osage", sharedOsage), ("phagspa", sharedPhagsPa), ("psalterpahlavi", sharedPsalterPahlavi),
  ("runic", sharedRunic), ("samaritan", sharedSamaritan), ("sharada", sharedSharada),
  ("shavian", sharedShavian), ("sinhala", sharedSinhala), ("sogdian", sharedSogdian),
  ("sunuwar", sharedSunuwar), ("sylotinagri", sharedSylotiNagri), ("syriac", sharedSyriac),
  ("tagalog", sharedTagalog), ("tagbanwa", sharedTagbanwa), ("taile", sharedTaiLe),
  ("takri", sharedTakri), ("tamil", sharedTamil), ("tangut", sharedTangut),
  ("telugu", sharedTelugu), ("thaana", sharedThaana), ("thai", sharedThai),
  ("tibetan", sharedTibetan), ("tifinagh", sharedTifinagh), ("tirhuta", sharedTirhuta),
  ("todhri", sharedTodhri), ("toto", sharedToto), ("tulutigalari", sharedTuluTigalari),
  ("yezidi", sharedYezidi), ("yi", sharedYi)]

/-- The characters used with a script. -/
def Script.usedWith (s : Script) : List Ranges :=
  if s.names.contains "common" then [onlyCommon]
  else if s.names.contains "inherited" then [onlyInherited]
  else s.ranges :: (sharedRanges.filter fun r => s.names.contains r.1).map (·.2)

end CardQuery.Unicode
