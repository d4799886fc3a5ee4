import PatternLint.CharSet

/-!
# ASCII sets

The digits, word characters and spaces of ASCII, and the POSIX classes, which
are ASCII sets as well. The sets of the classes are those that `regex-syntax` has
under these names.
-/

namespace PatternLint.CharSet

/-- The set of several ranges. -/
def ofPairs (rs : List (Char × Char)) : CharSet := ofRanges (rs.map fun r => .between r.1 r.2)

/-- The ASCII characters. -/
def ascii : CharSet := range '\x00' '\x7f'

/-- The ASCII digits. -/
def asciiDigit : CharSet := range '0' '9'

/-- The ASCII letters and digits and the underscore. -/
def asciiWord : CharSet := ofPairs [('0', '9'), ('A', 'Z'), ('_', '_'), ('a', 'z')]

/-- The ASCII blanks. -/
def asciiSpace : CharSet := ofPairs [('\t', '\r'), (' ', ' ')]

/-- The POSIX classes that patterns may use. -/
def posixClasses : List (String × List (Char × Char)) :=
  [("alnum", [('0', '9'), ('A', 'Z'), ('a', 'z')]),
   ("alpha", [('A', 'Z'), ('a', 'z')]),
   ("ascii", [('\x00', '\x7f')]),
   ("blank", [('\t', '\t'), (' ', ' ')]),
   ("cntrl", [('\x00', '\x1f'), ('\x7f', '\x7f')]),
   ("digit", [('0', '9')]),
   ("graph", [('!', '~')]),
   ("lower", [('a', 'z')]),
   ("print", [(' ', '~')]),
   ("punct", [('!', '/'), (':', '@'), ('[', '\x60'), ('\x7b', '~')]),
   ("space", [('\t', '\r'), (' ', ' ')]),
   ("upper", [('A', 'Z')]),
   ("word", [('0', '9'), ('A', 'Z'), ('_', '_'), ('a', 'z')]),
   ("xdigit", [('0', '9'), ('A', 'F'), ('a', 'f')])]

end PatternLint.CharSet
