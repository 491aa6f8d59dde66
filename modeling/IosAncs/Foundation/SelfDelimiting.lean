import Mathlib.Data.List.Basic

/-!
Codes whose words end by themselves: what follows a word tells nothing of where it ends,
so that words one after the other are told apart. Words of one width are such a code, and
so are lists behind a word that says how long they are.
-/
namespace SelfDelimiting
variable {α γ β : Type}

def Delimits (code : α → List β) : Prop :=
  ∀ first second rest rest', code first ++ rest = code second ++ rest' → first = second ∧ rest = rest'

theorem injective {code : α → List β} (delimits : Delimits code) : Function.Injective code := by
  intro first second same
  exact (delimits first second [] [] (congrArg (· ++ []) same)).1

theorem of_width {code : α → List β} (width : Nat) (wide : ∀ a, (code a).length = width)
    (inj : Function.Injective code) : Delimits code := by
  intro first second rest rest' same
  have lengths : (code first).length = (code second).length := (wide first).trans (wide second).symm
  have parts := List.append_inj same lengths
  exact ⟨inj parts.1, parts.2⟩

theorem append {code : α → List β} {code' : γ → List β} (delimits : Delimits code)
    (delimits' : Delimits code') :
    Delimits fun pair : α × γ => code pair.1 ++ code' pair.2 := by
  intro first second rest rest' same
  simp only [List.append_assoc] at same
  obtain ⟨left, others⟩ := delimits _ _ _ _ same
  obtain ⟨right, tails⟩ := delimits' _ _ _ _ others
  exact ⟨Prod.ext left right, tails⟩

abbrev Bounded (β : Type) (bound : Nat) := { list : List β // list.length < bound }

/-- A list behind a word that says how long it is -/
def framed {bound : Nat} (header : Fin bound → List β) (list : Bounded β bound) : List β :=
  header ⟨list.1.length, list.2⟩ ++ list.1

theorem framed_delimits {bound : Nat} {header : Fin bound → List β} (delimits : Delimits header) :
    Delimits (framed header) := by
  intro first second rest rest' same
  simp only [framed, List.append_assoc] at same
  obtain ⟨lengths, others⟩ := delimits _ _ _ _ same
  have parts := List.append_inj others (Fin.mk.inj lengths)
  exact ⟨Subtype.ext parts.1, parts.2⟩

end SelfDelimiting
