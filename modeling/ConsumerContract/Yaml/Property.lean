import ConsumerContract.Yaml.Token
import ConsumerContract.Yaml.Cursor

/-!
Anchors, aliases, tags and directives. None of them goes beyond its line.
-/

namespace ConsumerContract.Yaml.Property

def spanName (cs : List Char) : String × List Char :=
  (.ofList (cs.takeWhile isNameChar), cs.dropWhile isNameChar)

def readName? (cs : List Char) : Option (String × List Char) :=
  match spanName cs with
  | (name, rest) =>
      if name.isEmpty then none
      else if atWordEnd rest || rest.head?.any ['?', ':', ',', ']', '}', '%', '@', '\x60'].contains
      then some (name, rest)
      else none

def isResourceChar (c : Char) : Bool :=
  isNameChar c || [';', '/', '?', ':', '@', '&', '=', '+', '$', '.', '!', '~', '*', '\x27', '(',
    ')'].contains c

def readOctet? : List Char → Option (Nat × List Char)
  | '%' :: a :: b :: cs =>
      match CharSet.hexDigit? a, CharSet.hexDigit? b with
      | some x, some y => some (16 * x + y, cs)
      | _, _ => none
  | _ => none

def readTail? : Nat → Nat → List Char → Option (Nat × List Char)
  | 0, n, cs => some (n, cs)
  | k + 1, n, cs => do
      let (octet, cs) ← readOctet? cs
      if 0x80 ≤ octet ∧ octet < 0xC0 then readTail? k (64 * n + (octet - 0x80)) cs else none

def readOctets? (cs : List Char) : Option (Nat × List Char) := do
  let (octet, cs) ← readOctet? cs
  if octet < 0x80 then some (octet, cs)
  else if octet < 0xC0 then none
  else if octet < 0xE0 then readTail? 1 (octet - 0xC0) cs
  else if octet < 0xF0 then readTail? 2 (octet - 0xE0) cs
  else if octet < 0xF8 then readTail? 3 (octet - 0xF0) cs
  else none

/-- A verbatim resource may hold commas and brackets. -/
def readResource? (verbatim : Bool) : Nat → List Char → Option (List Char × List Char)
  | 0, _ => none
  | _ + 1, [] => some ([], [])
  | fuel + 1, c :: cs =>
      if c == '%' then do
        let (n, cs) ← readOctets? (c :: cs)
        let (more, rest) ← readResource? verbatim fuel cs
        some (.ofNat n :: more, rest)
      else if isResourceChar c || (verbatim && [',', '[', ']'].contains c) then
        (readResource? verbatim fuel cs).map fun (more, rest) => (c :: more, rest)
      else some ([], c :: cs)

def resource? (verbatim : Bool) (cs : List Char) : Option (String × List Char) :=
  match readResource? verbatim (cs.length + 1) cs with
  | some (c :: more, rest) => some (.ofList (c :: more), rest)
  | _ => none

/-- A lone mark has no handle. -/
def readTag? : List Char → Option (String × String × List Char)
  | '<' :: cs => do
      let (suffix, rest) ← resource? true cs
      match rest with
      | '>' :: rest => some ("", suffix, rest)
      | _ => none
  | cs =>
      match spanName cs with
      | (name, '!' :: rest) =>
          (resource? false rest).map fun (suffix, rest) => ("!" ++ name ++ "!", suffix, rest)
      | (name, rest) => do
          let (more, rest) ← readResource? false (rest.length + 1) rest
          let suffix := name ++ .ofList more
          some (if suffix.isEmpty then ("", "!", rest) else ("!", suffix, rest))

def readVersionPart? (cs : List Char) : Option (Nat × List Char) :=
  match cs.takeWhile Char.isDigit with
  | [] => none
  | digits =>
      if digits.length ≤ 9 then
        some (digits.foldl (fun n d => 10 * n + (d.toNat - 48)) 0, cs.dropWhile Char.isDigit)
      else none

def readVersion? (cs : List Char) : Option (Token × List Char) := do
  let (major, rest) ← readVersionPart? cs
  match rest with
  | '.' :: rest =>
      let (minor, rest) ← readVersionPart? rest
      some (.versionDirective major minor, rest)
  | _ => none

def readHandle? : List Char → Option (String × List Char)
  | '!' :: cs =>
      match spanName cs with
      | (name, '!' :: rest) => some ("!" ++ name ++ "!", rest)
      | (name, rest) => if name.isEmpty then some ("!", rest) else none
  | _ => none

def readAbbreviation? (cs : List Char) : Option (Token × List Char) := do
  let (handle, rest) ← readHandle? cs
  if !rest.head?.any isBlank then none
  else
    let (stem, rest) ← resource? true (rest.dropWhile isBlank)
    if atWordEnd rest then some (.tagDirective handle stem, rest) else none

def readDirective? (cs : List Char) : Option (Token × List Char) :=
  match spanName cs with
  | (name, rest) =>
      if !atWordEnd rest then none
      else if name = "YAML" then readVersion? (rest.dropWhile isBlank)
      else if name = "TAG" then readAbbreviation? (rest.dropWhile isBlank)
      else none

end ConsumerContract.Yaml.Property
