/-!
Header fields of HTTP messages. Names are compared without regard to case, and a name may have
several values, of which the first counts.
-/

namespace IntentProvider.Http

/-- Header fields in the order of their arrival. -/
structure Headers where
  /-- The names, in lower case, with their values. -/
  fields : List (String × String) := []
  deriving DecidableEq, Repr

namespace Headers

/-- The header fields of a message. -/
def ofList (fields : List (String × String)) : Headers :=
  ⟨fields.map fun f => (String.ofList (f.1.toList.map Char.toLower), f.2)⟩

/-- All values of a name, which is given in lower case. -/
def values (h : Headers) (name : String) : List String :=
  (h.fields.filter fun f => f.1 == name).map (·.2)

/-- The first value of a name. -/
def first? (h : Headers) (name : String) : Option String :=
  (h.values name).head?

/-- Whether a character may be read in a header value: a tab or a printing character of ASCII. -/
def isReadable (c : Char) : Bool :=
  c == '\t' || (32 ≤ c.toNat && c.toNat < 127)

/-- The first value of a name, if all its characters can be read. -/
def text? (h : Headers) (name : String) : Option String :=
  (h.first? name).filter fun v => v.toList.all isReadable

/-- Sets a name to one value in place of all those that it had. -/
def set (h : Headers) (name value : String) : Headers :=
  ⟨(h.fields.filter fun f => f.1 != name) ++ [(name, value)]⟩

theorem values_set_self (h : Headers) (name value : String) :
    (h.set name value).values name = [value] := by
  simp [set, values, List.filter_append, List.filter_filter]

/-- Whether a character may be sent in a header value: no control character except the tab. -/
def isSendable (c : Char) : Bool :=
  c == '\t' || (32 ≤ c.toNat && c.toNat != 127)

end Headers

end IntentProvider.Http
