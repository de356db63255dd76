import ConsumerContract.Pattern.Size

namespace ConsumerContract.Pattern

/-- A text, by its characters before and from a position. -/
structure Spot where
  before : List Char
  after : List Char
  deriving DecidableEq, Repr

def isWordChar (unicode : Bool) (c : Char) : Bool := (ClassKind.word.chars unicode).contains c

def Spot.wordBefore (unicode : Bool) (s : Spot) : Bool :=
  s.before.head?.any (isWordChar unicode)

def Spot.wordAfter (unicode : Bool) (s : Spot) : Bool :=
  s.after.head?.any (isWordChar unicode)

def Look.holds (s : Spot) : Look → Bool
  | .start => s.before.isEmpty
  | .finish => s.after.isEmpty
  | .lineStart false => s.before.isEmpty || s.before.head? == some '\n'
  | .lineEnd false => s.after.isEmpty || s.after.head? == some '\n'
  | .lineStart true =>
      s.before.isEmpty || s.before.head? == some '\n' ||
        (s.before.head? == some '\r' && s.after.head? != some '\n')
  | .lineEnd true =>
      s.after.isEmpty || s.after.head? == some '\r' ||
        (s.after.head? == some '\n' && s.before.head? != some '\r')
  | .boundary u => s.wordBefore u != s.wordAfter u
  | .notBoundary u => s.wordBefore u == s.wordAfter u
  | .wordStart u => !s.wordBefore u && s.wordAfter u
  | .wordEnd u => s.wordBefore u && !s.wordAfter u
  | .halfStart u => !s.wordBefore u
  | .halfEnd u => !s.wordAfter u

def Spot.advance (chars : CharSet) (s : Spot) : List Spot :=
  match s.after with
  | [] => []
  | c :: rest => if chars.contains c then [⟨c :: s.before, rest⟩] else []

def stepTimes (step : Spot → List Spot) : Nat → List Spot → List Spot
  | 0, spots => spots
  | n + 1, spots => stepTimes step n (spots.flatMap step).eraseDups

def stepUpTo (step : Spot → List Spot) : Nat → List Spot → List Spot
  | 0, spots => spots
  | n + 1, spots => (spots ++ stepUpTo step n (spots.flatMap step).eraseDups).eraseDups

mutual

def Expr.ends : Expr → Spot → List Spot
  | .empty, s => [s]
  | .chars cs, s => s.advance cs
  | .look l, s => if l.holds s then [s] else []
  | .repetition min max sub, s =>
      let rounds := max.elim s.after.length fun m => Min.min (m - min) s.after.length
      stepUpTo sub.ends rounds (stepTimes sub.ends min [s])
  | .capture sub, s => sub.ends s
  | .concat parts, s => endsOfAll parts s
  | .alternation branches, s => endsOfAny branches s

def Expr.endsOfAll : List Expr → Spot → List Spot
  | [], s => [s]
  | e :: rest, s => (e.ends s).flatMap fun t => endsOfAll rest t

def Expr.endsOfAny : List Expr → Spot → List Spot
  | [], _ => []
  | e :: rest, s => e.ends s ++ endsOfAny rest s

end

def spotsFrom : List Char → List Char → List Spot
  | before, [] => [⟨before, []⟩]
  | before, c :: rest => ⟨before, c :: rest⟩ :: spotsFrom (c :: before) rest

def Expr.isMatch (e : Expr) (text : String) : Bool :=
  (spotsFrom [] text.toList).any fun s => !(e.ends s).isEmpty

end Pattern

def Pattern.accepts (pattern : String) : Bool :=
  match Pattern.Expr.ofText? pattern with
  | some e => e.fits
  | none => false

def Pattern.isMatch (pattern text : String) : Bool :=
  match Pattern.Expr.ofText? pattern with
  | some e => e.fits && e.isMatch text
  | none => false

end ConsumerContract
