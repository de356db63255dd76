import ConsumerContract.Text.Uppercase

namespace ConsumerContract

namespace Selector

inductive Root where
  | body
  | path
  | header (name : String)
  | document
  deriving DecidableEq, Repr

inductive Step where
  | key (name : String)
  | index (i : Nat)
  | each
  deriving DecidableEq, Repr

/-- Header names do not distinguish case, so they are written in upper case. -/
def Root.chars : Root → List Char
  | .body => ['$', '.', 'b', 'o', 'd', 'y']
  | .path => ['$', '.', 'p', 'a', 't', 'h']
  | .header name =>
      ['$', '.', 'h', 'e', 'a', 'd', 'e', 'r', 's', '.'] ++ (Text.uppercase name).toList
  | .document => ['$']

def Step.chars : Step → List Char
  | .key name => if name.toList = [] then [] else '.' :: name.toList
  | .index i => '[' :: (Nat.toDigits 10 i ++ [']'])
  | .each => ['[', '*', ']']

end Selector

structure Selector where
  root : Selector.Root
  steps : List Selector.Step
  deriving DecidableEq, Repr

namespace Selector

def body : Selector := ⟨.body, []⟩

def path : Selector := ⟨.path, []⟩

def header (name : String) : Selector := ⟨.header name, []⟩

def document : Selector := ⟨.document, []⟩

def extend (s : Selector) (steps : List Step) : Selector := { s with steps := s.steps ++ steps }

def key (s : Selector) (name : String) : Selector := s.extend [.key name]

def index (s : Selector) (i : Nat) : Selector := s.extend [.index i]

def each (s : Selector) : Selector := s.extend [.each]

def stepChars (steps : List Step) : List Char := steps.flatMap Step.chars

def chars (s : Selector) : List Char := s.root.chars ++ stepChars s.steps

def text (s : Selector) : String := .ofList s.chars

def trail (s : Selector) : List Step → List Selector
  | [] => [s]
  | step :: rest => s :: trail (s.extend [step]) rest

@[simp] theorem extend_nil (s : Selector) : s.extend [] = s := by simp [extend]

@[simp] theorem extend_extend (s : Selector) (a b : List Step) :
    (s.extend a).extend b = s.extend (a ++ b) := by simp [extend]

theorem stepChars_append (a b : List Step) :
    stepChars (a ++ b) = stepChars a ++ stepChars b := by simp [stepChars]

theorem chars_extend (s : Selector) (steps : List Step) :
    (s.extend steps).chars = s.chars ++ stepChars steps := by
  simp [chars, extend, stepChars_append]

end Selector

end ConsumerContract
