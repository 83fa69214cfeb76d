import JsonSchema.Unicode.Script

namespace JsonSchema.Unicode

-- The characters that scripts use besides their own.
def borrowings : List (String × CharSet) := [
  ("adlm", ⟨[(0x61F, 0x61F), (0x640, 0x640), (0x204F, 0x204F), (0x2E41, 0x2E41)]⟩),
  ("aghb", ⟨[(0x304, 0x304), (0x331, 0x331), (0x35E, 0x35E)]⟩),
  ("arab", ⟨[
    (0x60C, 0x60C), (0x61B, 0x61B), (0x61F, 0x61F), (0x640, 0x640), (0x64B, 0x655),
    (0x670, 0x670), (0x204F, 0x204F), (0x2E41, 0x2E41), (0xFD3E, 0xFD3F), (0x102E0, 0x102FB)]⟩),
  ("armn", ⟨[(0x308, 0x308)]⟩),
  ("avst", ⟨[(0xB7, 0xB7), (0x2E30, 0x2E31)]⟩),
  ("beng", ⟨[
    (0x2BC, 0x2BC), (0x951, 0x952), (0x964, 0x965), (0x1CD0, 0x1CD0), (0x1CD2, 0x1CD2),
    (0x1CD5, 0x1CD6), (0x1CD8, 0x1CD8), (0x1CE1, 0x1CE1), (0x1CEA, 0x1CEA), (0x1CED, 0x1CED),
    (0x1CF2, 0x1CF2), (0x1CF5, 0x1CF7), (0xA8F1, 0xA8F1)]⟩),
  ("bopo", ⟨[
    (0x2C7, 0x2C7), (0x2C9, 0x2CB), (0x2D9, 0x2D9), (0x3001, 0x3003), (0x3008, 0x3011),
    (0x3013, 0x301F), (0x302A, 0x302D), (0x3030, 0x3030), (0x3037, 0x3037), (0x30FB, 0x30FB),
    (0xFE45, 0xFE46), (0xFF61, 0xFF65)]⟩),
  ("bugi", ⟨[(0xA9CF, 0xA9CF)]⟩),
  ("buhd", ⟨[(0x1735, 0x1736)]⟩),
  ("cakm", ⟨[(0x9E6, 0x9EF), (0x1040, 0x1049)]⟩),
  ("cari", ⟨[(0xB7, 0xB7), (0x205A, 0x205A), (0x205D, 0x205D), (0x2E31, 0x2E31)]⟩),
  ("cher", ⟨[(0x300, 0x302), (0x304, 0x304), (0x30B, 0x30C), (0x323, 0x324), (0x330, 0x331)]⟩),
  ("copt", ⟨[
    (0xB7, 0xB7), (0x300, 0x300), (0x304, 0x305), (0x307, 0x307), (0x374, 0x375),
    (0x2E17, 0x2E17), (0x102E0, 0x102FB)]⟩),
  ("cpmn", ⟨[(0x10100, 0x10101)]⟩),
  ("cprt", ⟨[(0x10100, 0x10102), (0x10107, 0x10133), (0x10137, 0x1013F)]⟩),
  ("cyrl", ⟨[
    (0x2BC, 0x2BC), (0x300, 0x302), (0x304, 0x304), (0x306, 0x306), (0x308, 0x308),
    (0x30B, 0x30B), (0x311, 0x311), (0x485, 0x486), (0x1DF8, 0x1DF8), (0x2E43, 0x2E43)]⟩),
  ("deva", ⟨[
    (0x2BC, 0x2BC), (0x951, 0x952), (0x964, 0x965), (0x1CD0, 0x1CF6), (0x1CF8, 0x1CF9),
    (0x20F0, 0x20F0), (0xA830, 0xA839)]⟩),
  ("dogr", ⟨[(0x964, 0x96F), (0xA830, 0xA839)]⟩),
  ("dupl", ⟨[
    (0xB7, 0xB7), (0x307, 0x308), (0x30A, 0x30A), (0x323, 0x324), (0x2E3C, 0x2E3C),
    (0x1BCA0, 0x1BCA3)]⟩),
  ("elba", ⟨[(0xB7, 0xB7), (0x305, 0x305)]⟩),
  ("ethi", ⟨[(0x30E, 0x30E)]⟩),
  ("gara", ⟨[(0x60C, 0x60C), (0x61B, 0x61B), (0x61F, 0x61F)]⟩),
  ("geor", ⟨[(0xB7, 0xB7), (0x589, 0x589), (0x10FB, 0x10FB), (0x205A, 0x205A), (0x2E31, 0x2E31)]⟩),
  ("glag", ⟨[
    (0xB7, 0xB7), (0x303, 0x303), (0x305, 0x305), (0x484, 0x484), (0x487, 0x487), (0x589, 0x589),
    (0x10FB, 0x10FB), (0x205A, 0x205A), (0x2E43, 0x2E43), (0xA66F, 0xA66F)]⟩),
  ("gong", ⟨[(0xB7, 0xB7), (0x964, 0x965)]⟩),
  ("gonm", ⟨[(0x964, 0x965)]⟩),
  ("goth", ⟨[(0xB7, 0xB7), (0x304, 0x305), (0x308, 0x308), (0x331, 0x331)]⟩),
  ("gran", ⟨[
    (0x951, 0x952), (0x964, 0x965), (0xBE6, 0xBF3), (0x1CD0, 0x1CD0), (0x1CD2, 0x1CD3),
    (0x1CF2, 0x1CF4), (0x1CF8, 0x1CF9), (0x20F0, 0x20F0), (0x1133B, 0x1133B), (0x11FD0, 0x11FD1),
    (0x11FD3, 0x11FD3)]⟩),
  ("grek", ⟨[
    (0xB7, 0xB7), (0x300, 0x301), (0x304, 0x304), (0x306, 0x306), (0x308, 0x308), (0x313, 0x313),
    (0x342, 0x342), (0x345, 0x345), (0x374, 0x374), (0x1DC0, 0x1DC1), (0x205D, 0x205D)]⟩),
  ("gujr", ⟨[(0x951, 0x952), (0x964, 0x965), (0xA830, 0xA839)]⟩),
  ("gukh", ⟨[(0x965, 0x965)]⟩),
  ("guru", ⟨[(0x951, 0x952), (0x964, 0x965), (0xA830, 0xA839)]⟩),
  ("hang", ⟨[
    (0x3001, 0x3003), (0x3008, 0x3011), (0x3013, 0x301F), (0x3030, 0x3030), (0x3037, 0x3037),
    (0x30FB, 0x30FB), (0xFE45, 0xFE46), (0xFF61, 0xFF65)]⟩),
  ("hani", ⟨[
    (0xB7, 0xB7), (0x2FF0, 0x2FFF), (0x3001, 0x3003), (0x3006, 0x3006), (0x3008, 0x3011),
    (0x3013, 0x301F), (0x302A, 0x302D), (0x3030, 0x3030), (0x3037, 0x3037), (0x303C, 0x303F),
    (0x30FB, 0x30FB), (0x3190, 0x319F), (0x31C0, 0x31E5), (0x31EF, 0x31EF), (0x3220, 0x3247),
    (0x3280, 0x32B0), (0x32C0, 0x32CB), (0x32FF, 0x32FF), (0x3358, 0x3370), (0x337B, 0x337F),
    (0x33E0, 0x33FE), (0xA700, 0xA707), (0xFE45, 0xFE46), (0xFF61, 0xFF65), (0x1D360, 0x1D371),
    (0x1F250, 0x1F251)]⟩),
  ("hano", ⟨[(0x1735, 0x1736)]⟩),
  ("hebr", ⟨[(0x307, 0x308)]⟩),
  ("hira", ⟨[
    (0x3001, 0x3003), (0x3008, 0x3011), (0x3013, 0x301F), (0x3030, 0x3035), (0x3037, 0x3037),
    (0x303C, 0x303D), (0x3099, 0x309C), (0x30A0, 0x30A0), (0x30FB, 0x30FC), (0xFE45, 0xFE46),
    (0xFF61, 0xFF65), (0xFF70, 0xFF70), (0xFF9E, 0xFF9F)]⟩),
  ("hung", ⟨[(0x205A, 0x205A), (0x205D, 0x205D), (0x2E31, 0x2E31), (0x2E41, 0x2E41)]⟩),
  ("java", ⟨[(0xA9CF, 0xA9CF)]⟩),
  ("kali", ⟨[(0xA92E, 0xA92E)]⟩),
  ("kana", ⟨[
    (0x305, 0x305), (0x323, 0x323), (0x3001, 0x3003), (0x3008, 0x3011), (0x3013, 0x301F),
    (0x3030, 0x3035), (0x3037, 0x3037), (0x303C, 0x303D), (0x3099, 0x309C), (0x30A0, 0x30A0),
    (0x30FB, 0x30FC), (0xFE45, 0xFE46), (0xFF61, 0xFF65), (0xFF70, 0xFF70), (0xFF9E, 0xFF9F)]⟩),
  ("khoj", ⟨[(0xAE6, 0xAEF), (0xA830, 0xA839)]⟩),
  ("knda", ⟨[
    (0x951, 0x952), (0x964, 0x965), (0x1CD0, 0x1CD0), (0x1CD2, 0x1CD3), (0x1CDA, 0x1CDA),
    (0x1CF2, 0x1CF2), (0x1CF4, 0x1CF4), (0xA830, 0xA835)]⟩),
  ("kthi", ⟨[(0x966, 0x96F), (0x2E31, 0x2E31), (0xA830, 0xA839)]⟩),
  ("latn", ⟨[
    (0xB7, 0xB7), (0x2BC, 0x2BC), (0x2C7, 0x2C7), (0x2C9, 0x2CB), (0x2CD, 0x2CD), (0x2D7, 0x2D7),
    (0x2D9, 0x2D9), (0x300, 0x30E), (0x310, 0x311), (0x313, 0x313), (0x323, 0x325),
    (0x32D, 0x32E), (0x330, 0x331), (0x358, 0x358), (0x35E, 0x35E), (0x363, 0x36F),
    (0x485, 0x486), (0x951, 0x952), (0x10FB, 0x10FB), (0x1DF8, 0x1DF8), (0x202F, 0x202F),
    (0x20F0, 0x20F0), (0x2E17, 0x2E17), (0xA700, 0xA707), (0xA92E, 0xA92E)]⟩),
  ("limb", ⟨[(0x965, 0x965)]⟩),
  ("lina", ⟨[(0x10107, 0x10133)]⟩),
  ("linb", ⟨[(0x10100, 0x10102), (0x10107, 0x10133), (0x10137, 0x1013F)]⟩),
  ("lisu", ⟨[(0x2BC, 0x2BC), (0x2CD, 0x2CD), (0x300A, 0x300B)]⟩),
  ("lyci", ⟨[(0x205A, 0x205A)]⟩),
  ("lydi", ⟨[(0xB7, 0xB7), (0x2E31, 0x2E31)]⟩),
  ("mahj", ⟨[(0xB7, 0xB7), (0x964, 0x96F), (0xA830, 0xA839)]⟩),
  ("mand", ⟨[(0x640, 0x640)]⟩),
  ("mani", ⟨[(0x640, 0x640)]⟩),
  ("mero", ⟨[(0x205D, 0x205D)]⟩),
  ("mlym", ⟨[
    (0x951, 0x952), (0x964, 0x965), (0x1CDA, 0x1CDA), (0x1CF2, 0x1CF2), (0xA830, 0xA832)]⟩),
  ("modi", ⟨[(0xA830, 0xA839)]⟩),
  ("mong", ⟨[
    (0x1802, 0x1803), (0x1805, 0x1805), (0x202F, 0x202F), (0x3001, 0x3002), (0x3008, 0x300B)]⟩),
  ("mult", ⟨[(0xA66, 0xA6F)]⟩),
  ("mymr", ⟨[(0xA92E, 0xA92E)]⟩),
  ("nand", ⟨[
    (0x951, 0x951), (0x964, 0x965), (0xCE6, 0xCEF), (0x1CE9, 0x1CE9), (0x1CF2, 0x1CF2),
    (0x1CFA, 0x1CFA), (0xA830, 0xA835)]⟩),
  ("newa", ⟨[
    (0x951, 0x952), (0x1CD5, 0x1CD5), (0x1CD7, 0x1CD8), (0x1CE2, 0x1CE2), (0x1CE9, 0x1CE9),
    (0x1CEB, 0x1CEB), (0x1CED, 0x1CED)]⟩),
  ("nkoo", ⟨[(0x60C, 0x60C), (0x61B, 0x61B), (0x61F, 0x61F), (0xFD3E, 0xFD3F)]⟩),
  ("onao", ⟨[(0x964, 0x965)]⟩),
  ("orkh", ⟨[(0x205A, 0x205A), (0x2E30, 0x2E30)]⟩),
  ("orya", ⟨[(0x951, 0x952), (0x964, 0x965), (0x1CDA, 0x1CDA), (0x1CF2, 0x1CF2)]⟩),
  ("osge", ⟨[(0x301, 0x301), (0x304, 0x304), (0x30B, 0x30B), (0x358, 0x358)]⟩),
  ("ougr", ⟨[(0x640, 0x640), (0x10AF2, 0x10AF2)]⟩),
  ("perm", ⟨[(0xB7, 0xB7), (0x300, 0x300), (0x306, 0x308), (0x313, 0x313), (0x483, 0x483)]⟩),
  ("phag", ⟨[(0x1802, 0x1803), (0x1805, 0x1805), (0x202F, 0x202F), (0x3002, 0x3002)]⟩),
  ("phlp", ⟨[(0x640, 0x640)]⟩),
  ("rohg", ⟨[(0x60C, 0x60C), (0x61B, 0x61B), (0x61F, 0x61F), (0x640, 0x640), (0x6D4, 0x6D4)]⟩),
  ("runr", ⟨[(0x16EB, 0x16ED)]⟩),
  ("samr", ⟨[(0x2E31, 0x2E31)]⟩),
  ("shaw", ⟨[(0xB7, 0xB7)]⟩),
  ("shrd", ⟨[
    (0x951, 0x951), (0x1CD7, 0x1CD7), (0x1CD9, 0x1CD9), (0x1CDC, 0x1CDD), (0x1CE0, 0x1CE0),
    (0x1CEA, 0x1CEA), (0x1CED, 0x1CED), (0xA830, 0xA835), (0xA838, 0xA838)]⟩),
  ("sind", ⟨[(0x964, 0x965), (0xA830, 0xA839)]⟩),
  ("sinh", ⟨[(0x964, 0x965), (0x1CF2, 0x1CF2)]⟩),
  ("sogd", ⟨[(0x640, 0x640)]⟩),
  ("sunu", ⟨[
    (0x300, 0x301), (0x303, 0x303), (0x30D, 0x30D), (0x310, 0x310), (0x32D, 0x32D),
    (0x331, 0x331)]⟩),
  ("sylo", ⟨[(0x964, 0x965), (0x9E6, 0x9EF)]⟩),
  ("syrc", ⟨[
    (0x303, 0x304), (0x307, 0x308), (0x30A, 0x30A), (0x323, 0x325), (0x32D, 0x32E),
    (0x330, 0x331), (0x60C, 0x60C), (0x61B, 0x61C), (0x61F, 0x61F), (0x640, 0x640),
    (0x64B, 0x655), (0x670, 0x670), (0x1DF8, 0x1DF8), (0x1DFA, 0x1DFA)]⟩),
  ("tagb", ⟨[(0x1735, 0x1736)]⟩),
  ("takr", ⟨[(0x964, 0x965), (0xA830, 0xA839)]⟩),
  ("tale", ⟨[(0x300, 0x301), (0x307, 0x308), (0x30C, 0x30C), (0x1040, 0x1049)]⟩),
  ("taml", ⟨[
    (0x951, 0x952), (0x964, 0x965), (0x1CDA, 0x1CDA), (0xA8F3, 0xA8F3), (0x11301, 0x11301),
    (0x11303, 0x11303), (0x1133B, 0x1133C)]⟩),
  ("tang", ⟨[(0x2FF0, 0x2FFF), (0x31EF, 0x31EF)]⟩),
  ("telu", ⟨[
    (0x951, 0x952), (0x964, 0x965), (0x1CD5, 0x1CD6), (0x1CD8, 0x1CD8), (0x1CDA, 0x1CDA),
    (0x1CF2, 0x1CF2)]⟩),
  ("tfng", ⟨[(0x302, 0x302), (0x304, 0x304), (0x306, 0x309), (0x323, 0x323)]⟩),
  ("tglg", ⟨[(0x1735, 0x1736)]⟩),
  ("thaa", ⟨[
    (0x60C, 0x60C), (0x61B, 0x61C), (0x61F, 0x61F), (0x660, 0x669), (0xFDF2, 0xFDF2),
    (0xFDFD, 0xFDFD)]⟩),
  ("thai", ⟨[(0x2BC, 0x2BC), (0x2D7, 0x2D7), (0x303, 0x303), (0x331, 0x331)]⟩),
  ("tibt", ⟨[(0x3008, 0x300B)]⟩),
  ("tirh", ⟨[
    (0x951, 0x952), (0x964, 0x965), (0x1CD5, 0x1CD5), (0x1CE2, 0x1CE2), (0x1CF2, 0x1CF2),
    (0xA830, 0xA839)]⟩),
  ("todr", ⟨[
    (0x301, 0x301), (0x304, 0x304), (0x307, 0x307), (0x311, 0x311), (0x313, 0x313),
    (0x35E, 0x35E)]⟩),
  ("toto", ⟨[(0x2BC, 0x2BC)]⟩),
  ("tutg", ⟨[
    (0xCE6, 0xCEF), (0x1CF2, 0x1CF2), (0x1CF4, 0x1CF4), (0xA830, 0xA835), (0xA8F1, 0xA8F1)]⟩),
  ("yezi", ⟨[(0x60C, 0x60C), (0x61B, 0x61B), (0x61F, 0x61F), (0x660, 0x669)]⟩),
  ("yiii", ⟨[
    (0x3001, 0x3002), (0x3008, 0x3011), (0x3014, 0x301B), (0x30FB, 0x30FB), (0xFF61, 0xFF65)]⟩)]

def borrowed : CharSet := .unions (borrowings.map (·.2))

-- The characters in use in a script: its own and those it borrows. What is common to the scripts or
-- inherited counts as such only while no script borrows it.
def Script.extension (s : Script) : CharSet :=
  let own :=
    if s.names = commonScript.names || s.names = inheritedScript.names then s.chars.diff borrowed
    else s.chars
  .union own (.unions ((borrowings.filter fun (name, _) => s.names.contains name).map (·.2)))

end JsonSchema.Unicode
