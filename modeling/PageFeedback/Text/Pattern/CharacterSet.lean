set_option autoImplicit false

namespace PageFeedback

inductive CharacterSet
  | empty
  | range (first last : Char)
  | union (one other : CharacterSet)
  | intersection (one other : CharacterSet)
  | complement (set : CharacterSet)
  | anyCase (set : CharacterSet)
deriving DecidableEq, Repr

namespace CharacterSet

def otherCase (c : Char) : Char := if c.isUpper then c.toLower else c.toUpper

def contains : CharacterSet → Char → Bool
  | empty, _ => false
  | range first last, c => first ≤ c && c ≤ last
  | union one other, c => one.contains c || other.contains c
  | intersection one other, c => one.contains c && other.contains c
  | complement set, c => !set.contains c
  | anyCase set, c => set.contains c || set.contains (otherCase c)

def single (c : Char) : CharacterSet := range c c

def difference (one other : CharacterSet) : CharacterSet := intersection one (complement other)

def symmetricDifference (one other : CharacterSet) : CharacterSet :=
  union (difference one other) (difference other one)

def ofRanges (ranges : List (Char × Char)) : CharacterSet :=
  ranges.foldr (fun (first, last) set => union (range first last) set) empty

def digits : List (Char × Char) := [('0', '9')]

def letters : List (Char × Char) := [('A', 'Z'), ('a', 'z')]

def wordRanges : List (Char × Char) := ('_', '_') :: letters ++ digits

def named : List (String × List (Char × Char)) :=
  [("alnum", digits ++ letters), ("alpha", letters), ("ascii", [('\x00', '\x7f')]),
    ("blank", [('\t', '\t'), (' ', ' ')]), ("cntrl", [('\x00', '\x1f'), ('\x7f', '\x7f')]),
    ("digit", digits), ("graph", [('!', '~')]), ("lower", [('a', 'z')]), ("print", [(' ', '~')]),
    ("punct", [('!', '/'), (':', '@'), ('[', '\x60'), ('\x7b', '~')]),
    ("space", [('\t', '\r'), (' ', ' ')]), ("upper", [('A', 'Z')]), ("word", wordRanges),
    ("xdigit", digits ++ [('A', 'F'), ('a', 'f')])]

def ofName? (name : String) : Option CharacterSet := (named.lookup name).map ofRanges

def isNarrow (set : CharacterSet) : Bool :=
  !(List.range' 0x80 0x80).any fun code => set.contains (Char.ofNat code)

end CharacterSet

end PageFeedback
