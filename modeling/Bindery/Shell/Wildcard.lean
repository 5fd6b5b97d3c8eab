/-!
Contract: the patterns by which a shell selects texts and files.

Owns:
- reading a pattern from characters of which some are quoted and stand for themselves;
- `Wildcard.covers`, whether a pattern covers the whole of a text.
-/

namespace Bindery.Shell

inductive SetMember where
  | range (low high : Char)
  | kind (name : String)
deriving DecidableEq, Repr

inductive WildcardItem where
  | single (c : Char)
  | anyOne
  | anyMany
  | oneOf (negated : Bool) (members : List SetMember)
deriving DecidableEq, Repr

abbrev Wildcard := List WildcardItem

structure PatternChar where
  value : Char
  quoted : Bool
deriving DecidableEq, Repr

/-- Whether a character has the meaning that it has in patterns. -/
def PatternChar.is (c : PatternChar) (value : Char) : Bool :=
  !c.quoted && c.value = value

/-- Whether a character is of the kind with a name. -/
def isOfKind (name : String) (c : Char) : Bool :=
  match name with
  | "alnum" => c.isAlphanum
  | "alpha" => c.isAlpha
  | "blank" => c = ' ' || c = '\t'
  | "cntrl" => c.toNat < 32 || c.toNat == 127
  | "digit" => c.isDigit
  | "graph" => 32 < c.toNat && c.toNat < 127
  | "lower" => c.isLower
  | "print" => 32 ≤ c.toNat && c.toNat < 127
  | "punct" => 32 < c.toNat && c.toNat < 127 && !c.isAlphanum
  | "space" => c = ' ' || (9 ≤ c.toNat && c.toNat ≤ 13)
  | "upper" => c.isUpper
  | "xdigit" => c.isDigit || ('a' ≤ c && c ≤ 'f') || ('A' ≤ c && c ≤ 'F')
  | _ => false

/-- Whether a member of a set covers a character. -/
def SetMember.covers (c : Char) : SetMember → Bool
  | range low high => low ≤ c && c ≤ high
  | kind name => isOfKind name c

/-- The name of a kind of characters, behind its two opening signs. -/
def readKind (text : List PatternChar) : Option (String × List PatternChar) :=
  let name := text.takeWhile fun c => c.value.isAlpha
  match text.drop name.length with
  | colon :: close :: rest =>
      if colon.is ':' && close.is ']' then some (String.ofList (name.map PatternChar.value), rest)
      else none
  | _ => none

/-- Reads the members of a set up to its closing sign, which cannot be the first member. -/
def readMembers : (fuel : Nat) → (first : Bool) → List PatternChar →
    Option (List SetMember × List PatternChar)
  | 0, _, _ => none
  | _, _, [] => none
  | fuel + 1, first, c :: rest =>
      let single : Option (List SetMember × List PatternChar) :=
        match rest with
        | dash :: high :: more =>
            if dash.is '-' && !high.is ']' then
              (readMembers fuel false more).map fun (members, left) =>
                (.range c.value high.value :: members, left)
            else
              (readMembers fuel false rest).map fun (members, left) =>
                (.range c.value c.value :: members, left)
        | _ =>
            (readMembers fuel false rest).map fun (members, left) =>
              (.range c.value c.value :: members, left)
      if c.is ']' && !first then some ([], rest)
      else
        match rest with
        | colon :: more =>
            if c.is '[' && colon.is ':' then
              match readKind more with
              | some (name, after) =>
                  (readMembers fuel false after).map fun (members, left) =>
                    (.kind name :: members, left)
              | none => single
            else single
        | [] => single

/-- Reads a pattern. An opening sign without a closing one stands for itself. -/
def readWildcard : (fuel : Nat) → List PatternChar → Wildcard
  | 0, _ => []
  | _, [] => []
  | fuel + 1, c :: rest =>
      if c.is '*' then .anyMany :: readWildcard fuel rest
      else if c.is '?' then .anyOne :: readWildcard fuel rest
      else if c.is '[' then
        let (negated, members) : Bool × List PatternChar :=
          match rest with
          | sign :: more => if sign.is '!' then (true, more) else (false, rest)
          | [] => (false, [])
        match readMembers (members.length + 1) true members with
        | some (found, left) => .oneOf negated found :: readWildcard fuel left
        | none => .single c.value :: readWildcard fuel rest
      else .single c.value :: readWildcard fuel rest

namespace Wildcard

def ofChars (text : List PatternChar) : Wildcard :=
  readWildcard (text.length + 1) text

/-- The ends of a text, the longest one first. -/
def ends : List Char → List (List Char)
  | [] => [[]]
  | c :: rest => (c :: rest) :: ends rest

/-- Whether a pattern covers the whole of a text. -/
def covers : Wildcard → List Char → Bool
  | [], text => text.isEmpty
  | .anyMany :: rest, text => (ends text).any (covers rest)
  | .single c :: rest, text =>
      match text with
      | d :: more => c = d && covers rest more
      | [] => false
  | .anyOne :: rest, text =>
      match text with
      | _ :: more => covers rest more
      | [] => false
  | .oneOf negated members :: rest, text =>
      match text with
      | d :: more => members.any (SetMember.covers d) != negated && covers rest more
      | [] => false

end Wildcard

end Bindery.Shell
