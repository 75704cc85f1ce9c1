/-! Texts kept once each, under small numbers. -/
namespace Transparency.Text

/-- The texts interned so far; a symbol is the position of its text. -/
structure Interner where
  texts : List String := []
  distinct : texts.Nodup := by simp

/-- What stands for an interned text. -/
abbrev Symbol := Nat

namespace Interner

/-- An interner that knows no text. -/
def empty : Interner := {}

/-- The symbol of a text that was interned before. -/
def get? (interner : Interner) (text : String) : Option Symbol :=
  interner.texts.idxOf? text

/-- The text of a symbol. -/
def resolve? (interner : Interner) (symbol : Symbol) : Option String :=
  interner.texts[symbol]?

/-- The symbol of the text, which is kept from now on. -/
def intern (interner : Interner) (text : String) : Symbol × Interner :=
  if h : text ∈ interner.texts then (interner.texts.idxOf text, interner)
  else
    (interner.texts.length,
      { texts := interner.texts ++ [text]
        distinct := by
          simp only [List.nodup_append, interner.distinct, List.mem_singleton]
          simp only [List.nodup_cons, List.not_mem_nil, not_false_eq_true, List.nodup_nil,
            and_self, true_and]
          rintro known hKnown _ rfl rfl
          exact h hKnown })

end Interner

end Transparency.Text
