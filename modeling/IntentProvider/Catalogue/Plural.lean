/-!
English plurals of the names of kinds. The rules look at the end of a name without regard to the
case of ASCII letters.
-/

namespace IntentProvider.Plural

/-- Whether a name, given backwards and in lower case, ends in a hiss. -/
def endsInHiss : List Char → Bool
  | 's' :: _ => true
  | 'x' :: _ => true
  | 'z' :: _ => true
  | 'h' :: 'c' :: _ => true
  | 'h' :: 's' :: _ => true
  | _ => false

/-- The five vowels. -/
def isVowel (c : Char) : Bool :=
  c == 'a' || c == 'e' || c == 'i' || c == 'o' || c == 'u'

/-- Whether a name, given backwards and in lower case, ends in a `y` after another character that is
no vowel. -/
def endsInLoneY : List Char → Bool
  | 'y' :: c :: _ => !isVowel c
  | _ => false

/-- The plural of a name: `es` after a hiss, `ies` for a lone `y`, else `s`. -/
def ofChars (name : List Char) : List Char :=
  let backwards := (name.map Char.toLower).reverse
  if endsInHiss backwards then name ++ ['e', 's']
  else if endsInLoneY backwards then name.dropLast ++ ['i', 'e', 's']
  else name ++ ['s']

/-- The plural of a name. -/
def of (name : String) : String :=
  String.ofList (ofChars name.toList)

example : ofChars ['B', 'u', 's'] = ['B', 'u', 's', 'e', 's'] := by decide

example : ofChars ['K', 'e', 'Y'] = ['K', 'e', 'Y', 's'] := by decide

example : ofChars ['S', 'k', 'y'] = ['S', 'k', 'i', 'e', 's'] := by decide

end IntentProvider.Plural
