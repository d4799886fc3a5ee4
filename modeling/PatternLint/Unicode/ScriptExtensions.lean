import PatternLint.Unicode.NamedSet

/-!
# Script extensions

Some code points are used with several scripts. For these the scripts are listed
here; every other code point is used with its own script only. The table is that
of `regex-syntax`, for Unicode 16.
-/

namespace PatternLint.Unicode

/-- The code points that have a list of scripts, by the long names of the scripts in the list. -/
def scriptExtensions : List NamedSet := [
  ⟨["avestan", "carian", "coptic", "duployan", "elbasan", "georgian", "glagolitic", "gothic",
    "greek", "gunjalagondi", "han", "latin", "lydian", "mahajani", "oldpermic", "shavian"],
    ["b7"]⟩,
  ⟨["bengali", "cyrillic", "devanagari", "latin", "lisu", "thai", "toto"],
    ["2bc"]⟩,
  ⟨["bopomofo", "latin"],
    ["2c7 2c9-2cb 2d9"]⟩,
  ⟨["latin", "lisu"],
    ["2cd"]⟩,
  ⟨["latin", "thai"],
    ["2d7"]⟩,
  ⟨["cherokee", "coptic", "cyrillic", "greek", "latin", "oldpermic", "sunuwar", "taile"],
    ["300"]⟩,
  ⟨["cherokee", "cyrillic", "greek", "latin", "osage", "sunuwar", "taile", "todhri"],
    ["301"]⟩,
  ⟨["cherokee", "cyrillic", "latin", "tifinagh"],
    ["302"]⟩,
  ⟨["glagolitic", "latin", "sunuwar", "syriac", "thai"],
    ["303"]⟩,
  ⟨["caucasianalbanian", "cherokee", "coptic", "cyrillic", "gothic", "greek", "latin", "osage",
    "syriac", "tifinagh", "todhri"],
    ["304"]⟩,
  ⟨["coptic", "elbasan", "glagolitic", "gothic", "katakana", "latin"],
    ["305"]⟩,
  ⟨["cyrillic", "greek", "latin", "oldpermic"],
    ["306"]⟩,
  ⟨["coptic", "duployan", "hebrew", "latin", "oldpermic", "syriac", "taile", "tifinagh",
    "todhri"],
    ["307"]⟩,
  ⟨["armenian", "cyrillic", "duployan", "gothic", "greek", "hebrew", "latin", "oldpermic",
    "syriac", "taile"],
    ["308"]⟩,
  ⟨["latin", "tifinagh"],
    ["309"]⟩,
  ⟨["duployan", "latin", "syriac"],
    ["30a"]⟩,
  ⟨["cherokee", "cyrillic", "latin", "osage"],
    ["30b"]⟩,
  ⟨["cherokee", "latin", "taile"],
    ["30c"]⟩,
  ⟨["latin", "sunuwar"],
    ["30d 310"]⟩,
  ⟨["ethiopic", "latin"],
    ["30e"]⟩,
  ⟨["cyrillic", "latin", "todhri"],
    ["311"]⟩,
  ⟨["greek", "latin", "oldpermic", "todhri"],
    ["313"]⟩,
  ⟨["latin", "syriac"],
    ["320 325 32e"]⟩,
  ⟨["cherokee", "duployan", "katakana", "latin", "syriac"],
    ["323"]⟩,
  ⟨["cherokee", "duployan", "latin", "syriac"],
    ["324"]⟩,
  ⟨["latin", "sunuwar", "syriac"],
    ["32d"]⟩,
  ⟨["cherokee", "latin", "syriac"],
    ["330"]⟩,
  ⟨["caucasianalbanian", "cherokee", "gothic", "latin", "sunuwar", "thai"],
    ["331"]⟩,
  ⟨["greek"],
    ["342 345 1dc0-1dc1"]⟩,
  ⟨["latin", "osage"],
    ["358"]⟩,
  ⟨["caucasianalbanian", "latin", "todhri"],
    ["35e"]⟩,
  ⟨["latin"],
    ["363-36f"]⟩,
  ⟨["coptic", "greek"],
    ["374-375"]⟩,
  ⟨["cyrillic", "oldpermic"],
    ["483"]⟩,
  ⟨["cyrillic", "glagolitic"],
    ["484 487 2e43 a66f"]⟩,
  ⟨["cyrillic", "latin"],
    ["485-486"]⟩,
  ⟨["armenian", "georgian", "glagolitic"],
    ["589"]⟩,
  ⟨["arabic", "garay", "hanifirohingya", "nko", "syriac", "thaana", "yezidi"],
    ["60c 61b"]⟩,
  ⟨["arabic", "syriac", "thaana"],
    ["61c"]⟩,
  ⟨["adlam", "arabic", "garay", "hanifirohingya", "nko", "syriac", "thaana", "yezidi"],
    ["61f"]⟩,
  ⟨["adlam", "arabic", "hanifirohingya", "mandaic", "manichaean", "olduyghur",
    "psalterpahlavi", "sogdian", "syriac"],
    ["640"]⟩,
  ⟨["arabic", "syriac"],
    ["64b-655 670"]⟩,
  ⟨["arabic", "thaana", "yezidi"],
    ["660-669"]⟩,
  ⟨["arabic", "hanifirohingya"],
    ["6d4"]⟩,
  ⟨["bengali", "devanagari", "grantha", "gujarati", "gurmukhi", "kannada", "latin",
    "malayalam", "oriya", "sharada", "tamil", "telugu", "tirhuta"],
    ["951"]⟩,
  ⟨["bengali", "devanagari", "grantha", "gujarati", "gurmukhi", "kannada", "latin",
    "malayalam", "oriya", "tamil", "telugu", "tirhuta"],
    ["952"]⟩,
  ⟨["bengali", "devanagari", "dogra", "grantha", "gujarati", "gunjalagondi", "gurmukhi",
    "kannada", "khudawadi", "mahajani", "malayalam", "masaramgondi", "nandinagari", "olonal",
    "oriya", "sinhala", "sylotinagri", "takri", "tamil", "telugu", "tirhuta"],
    ["964"]⟩,
  ⟨["bengali", "devanagari", "dogra", "grantha", "gujarati", "gunjalagondi", "gurmukhi",
    "gurungkhema", "kannada", "khudawadi", "limbu", "mahajani", "malayalam", "masaramgondi",
    "nandinagari", "olonal", "oriya", "sinhala", "sylotinagri", "takri", "tamil", "telugu",
    "tirhuta"],
    ["965"]⟩,
  ⟨["devanagari", "dogra", "kaithi", "mahajani"],
    ["966-96f"]⟩,
  ⟨["bengali", "chakma", "sylotinagri"],
    ["9e6-9ef"]⟩,
  ⟨["gurmukhi", "multani"],
    ["a66-a6f"]⟩,
  ⟨["gujarati", "khojki"],
    ["ae6-aef"]⟩,
  ⟨["grantha", "tamil"],
    ["be6-bf3 11301 11303 1133b-1133c 11fd0-11fd1 11fd3"]⟩,
  ⟨["kannada", "nandinagari", "tulutigalari"],
    ["ce6-cef"]⟩,
  ⟨["chakma", "myanmar", "taile"],
    ["1040-1049"]⟩,
  ⟨["georgian", "glagolitic", "latin"],
    ["10fb"]⟩,
  ⟨["runic"],
    ["16eb-16ed"]⟩,
  ⟨["buhid", "hanunoo", "tagalog", "tagbanwa"],
    ["1735-1736"]⟩,
  ⟨["mongolian", "phagspa"],
    ["1802-1803 1805"]⟩,
  ⟨["bengali", "devanagari", "grantha", "kannada"],
    ["1cd0 1cd2"]⟩,
  ⟨["devanagari"],
    ["1cd1 1cd4 1cdb 1cde-1cdf 1ce2-1ce8 1ceb-1cec 1cee-1cf1"]⟩,
  ⟨["devanagari", "grantha", "kannada"],
    ["1cd3"]⟩,
  ⟨["bengali", "devanagari"],
    ["1cd5-1cd6 1cd8 1ce1 1cea 1ced 1cf5-1cf6"]⟩,
  ⟨["devanagari", "sharada"],
    ["1cd7 1cd9 1cdc-1cdd 1ce0"]⟩,
  ⟨["devanagari", "kannada", "malayalam", "oriya", "tamil", "telugu"],
    ["1cda"]⟩,
  ⟨["devanagari", "nandinagari"],
    ["1ce9"]⟩,
  ⟨["bengali", "devanagari", "grantha", "kannada", "malayalam", "nandinagari", "oriya",
    "sinhala", "telugu", "tirhuta", "tulutigalari"],
    ["1cf2"]⟩,
  ⟨["devanagari", "grantha"],
    ["1cf3 1cf8-1cf9"]⟩,
  ⟨["devanagari", "grantha", "kannada", "tulutigalari"],
    ["1cf4"]⟩,
  ⟨["bengali"],
    ["1cf7"]⟩,
  ⟨["nandinagari"],
    ["1cfa"]⟩,
  ⟨["cyrillic", "latin", "syriac"],
    ["1df8"]⟩,
  ⟨["syriac"],
    ["1dfa"]⟩,
  ⟨["latin", "mongolian", "phagspa"],
    ["202f"]⟩,
  ⟨["adlam", "arabic"],
    ["204f"]⟩,
  ⟨["carian", "georgian", "glagolitic", "lycian", "oldhungarian", "oldturkic"],
    ["205a"]⟩,
  ⟨["carian", "greek", "meroitichieroglyphs", "oldhungarian"],
    ["205d"]⟩,
  ⟨["devanagari", "grantha", "latin"],
    ["20f0"]⟩,
  ⟨["coptic", "latin"],
    ["2e17"]⟩,
  ⟨["avestan", "oldturkic"],
    ["2e30"]⟩,
  ⟨["avestan", "carian", "georgian", "kaithi", "lydian", "oldhungarian", "samaritan"],
    ["2e31"]⟩,
  ⟨["duployan"],
    ["2e3c 1bca0-1bca3"]⟩,
  ⟨["adlam", "arabic", "oldhungarian"],
    ["2e41"]⟩,
  ⟨["han", "tangut"],
    ["2ff0-2fff 31ef"]⟩,
  ⟨["bopomofo", "han", "hangul", "hiragana", "katakana", "mongolian", "yi"],
    ["3001"]⟩,
  ⟨["bopomofo", "han", "hangul", "hiragana", "katakana", "mongolian", "phagspa", "yi"],
    ["3002"]⟩,
  ⟨["bopomofo", "han", "hangul", "hiragana", "katakana"],
    ["3003 3013 301c-301f 3030 3037 fe45-fe46"]⟩,
  ⟨["han"],
    ["3006 303e-303f 3190-319f 31c0-31e5 3220-3247 3280-32b0 32c0-32cb 32ff 3358-3370",
     "337b-337f 33e0-33fe 1d360-1d371 1f250-1f251"]⟩,
  ⟨["bopomofo", "han", "hangul", "hiragana", "katakana", "mongolian", "tibetan", "yi"],
    ["3008-3009"]⟩,
  ⟨["bopomofo", "han", "hangul", "hiragana", "katakana", "lisu", "mongolian", "tibetan", "yi"],
    ["300a-300b"]⟩,
  ⟨["bopomofo", "han", "hangul", "hiragana", "katakana", "yi"],
    ["300c-3011 3014-301b 30fb ff61-ff65"]⟩,
  ⟨["bopomofo", "han"],
    ["302a-302d"]⟩,
  ⟨["hiragana", "katakana"],
    ["3031-3035 3099-309c 30a0 30fc ff70 ff9e-ff9f"]⟩,
  ⟨["han", "hiragana", "katakana"],
    ["303c-303d"]⟩,
  ⟨["han", "latin"],
    ["a700-a707"]⟩,
  ⟨["devanagari", "dogra", "gujarati", "gurmukhi", "kaithi", "kannada", "khojki", "khudawadi",
    "mahajani", "malayalam", "modi", "nandinagari", "sharada", "takri", "tirhuta",
    "tulutigalari"],
    ["a830-a832"]⟩,
  ⟨["devanagari", "dogra", "gujarati", "gurmukhi", "kaithi", "kannada", "khojki", "khudawadi",
    "mahajani", "modi", "nandinagari", "sharada", "takri", "tirhuta", "tulutigalari"],
    ["a833-a835"]⟩,
  ⟨["devanagari", "dogra", "gujarati", "gurmukhi", "kaithi", "khojki", "khudawadi", "mahajani",
    "modi", "takri", "tirhuta"],
    ["a836-a837 a839"]⟩,
  ⟨["devanagari", "dogra", "gujarati", "gurmukhi", "kaithi", "khojki", "khudawadi", "mahajani",
    "modi", "sharada", "takri", "tirhuta"],
    ["a838"]⟩,
  ⟨["bengali", "devanagari", "tulutigalari"],
    ["a8f1"]⟩,
  ⟨["devanagari", "tamil"],
    ["a8f3"]⟩,
  ⟨["kayahli", "latin", "myanmar"],
    ["a92e"]⟩,
  ⟨["buginese", "javanese"],
    ["a9cf"]⟩,
  ⟨["arabic", "nko"],
    ["fd3e-fd3f"]⟩,
  ⟨["arabic", "thaana"],
    ["fdf2 fdfd"]⟩,
  ⟨["cypriot", "cyprominoan", "linearb"],
    ["10100-10101"]⟩,
  ⟨["cypriot", "linearb"],
    ["10102 10137-1013f"]⟩,
  ⟨["cypriot", "lineara", "linearb"],
    ["10107-10133"]⟩,
  ⟨["arabic", "coptic"],
    ["102e0-102fb"]⟩,
  ⟨["manichaean", "olduyghur"],
    ["10af2"]⟩]

end PatternLint.Unicode
