import RoleAlgebra.Text.Position

namespace RoleAlgebra

structure Location where
  text : String
  start : Nat
  length : Nat
  deriving DecidableEq, Repr

namespace Location

/-- The stretch from byte `start` up to byte `stop`; empty at `start` if `stop` comes first. -/
def between (text : String) (start stop : Nat) : Location := ⟨text, start, stop - start⟩

def stop (here : Location) : Nat := here.start + here.length

/-- Everything from the first start to the last end, in the text of `here`. -/
def join (here there : Location) : Location :=
  between here.text (min here.start there.start) (max here.stop there.stop)

/-- The characters covered, unless the stretch does not fit its text. -/
def snippet? (here : Location) : Option String := Text.slice? here.text here.start here.stop

def startPosition (here : Location) : Position := .ofOffset here.text here.start

def stopPosition (here : Location) : Position := .ofOffset here.text here.stop

@[simp] theorem start_between (text : String) (start stop : Nat) :
    (between text start stop).start = start := rfl

@[simp] theorem text_between (text : String) (start stop : Nat) :
    (between text start stop).text = text := rfl

@[simp] theorem stop_between (text : String) (start stop : Nat) :
    (between text start stop).stop = max start stop := by
  simp [between, Location.stop]
  omega

@[simp] theorem text_join (here there : Location) : (here.join there).text = here.text := rfl

@[simp] theorem start_join (here there : Location) :
    (here.join there).start = min here.start there.start := rfl

@[simp] theorem stop_join (here there : Location) :
    (here.join there).stop = max here.stop there.stop := by
  rw [join, stop_between]
  unfold Location.stop
  omega

end Location
end RoleAlgebra
