import FixedDecimal.CommandLine.Run
import Mathlib.Data.List.Basic

/-! The settings that variables hold, in the environment and in a file beside it. A file adds what
the environment does not have, and cannot be loaded where that could not be set. -/
namespace FixedDecimal

namespace EnvFile

def extended (env : Environment) (name value : String) : Environment :=
  if (env.lookup name).isSome then env else env ++ [(name, value)]

def isIdle (line : List Char) : Bool :=
  match Text.trim line with
  | [] | '#' :: _ => true
  | _ => false

/-- The names and values of all lines up to the first that cannot be read. A value may use the
variables of the environment and those of the lines before. -/
def entries (env : Environment) : List (List Char) → Environment
  | [] => []
  | line :: rest =>
    if isIdle line then entries env rest
    else
      match readEntry env (Text.trim line) with
      | some (name, value) => (name, value) :: entries (extended env name value) rest
      | none => []

def written (env : Environment) (file : String) : Environment := entries env (lines file.toList)

/-- No value that would have to be set holds the character NUL. -/
def Settable (env added : Environment) : Prop :=
  ∀ name value, env.lookup name = none → added.lookup name = some value → '\x00' ∉ value.toList

section
variable {env rest : Environment} {name value : String}

theorem lookup_extended (env : Environment) (name value other : String) :
    (extended env name value).lookup other = (env ++ [(name, value)]).lookup other := by
  unfold extended
  split
  · next h =>
    obtain ⟨old, hold⟩ := Option.isSome_iff_exists.mp h
    rw [List.lookup_append, List.lookup_singleton]
    by_cases hname : other = name
    · rw [hname, hold, Option.some_or]
    · simp [hname]
  · rfl

theorem lookup_extended_eq_none {other : String} :
    (extended env name value).lookup other = none ↔ env.lookup other = none ∧ other ≠ name := by
  rw [lookup_extended, List.lookup_append, List.lookup_singleton]
  by_cases h : other = name <;> simp [h]

theorem settable_nil (env : Environment) : Settable env [] := fun _ _ _ h => nomatch h

theorem settable_cons : Settable env ((name, value) :: rest) ↔
    (env.lookup name = none → '\x00' ∉ value.toList) ∧
      Settable (extended env name value) rest := by
  constructor
  · intro h
    refine ⟨fun hnew => h name value hnew List.lookup_cons_self, fun other w hnone hw => ?_⟩
    obtain ⟨hnew, hne⟩ := lookup_extended_eq_none.mp hnone
    exact h other w hnew (by rwa [List.lookup_cons, beq_false_of_ne hne])
  · rintro ⟨hvalue, hrest⟩ other w hnew hw
    by_cases hother : other = name
    · rw [hother, List.lookup_cons_self] at hw
      rw [hother] at hnew
      exact Option.some.inj hw ▸ hvalue hnew
    · rw [List.lookup_cons, beq_false_of_ne hother] at hw
      exact hrest other w (lookup_extended_eq_none.mpr ⟨hnew, hother⟩) hw

theorem define?_eq_some (h : env.lookup name = none → '\x00' ∉ value.toList) :
    define? env name value = some (extended env name value) := by
  unfold define? extended
  split
  · rfl
  · next hset => rw [if_neg (h (Option.not_isSome_iff_eq_none.mp hset))]

theorem define?_eq_none (h : ¬(env.lookup name = none → '\x00' ∉ value.toList)) :
    define? env name value = none := by
  rw [Classical.not_imp, not_not] at h
  rw [define?, h.1, if_pos h.2]
  rfl

end

def Extends (env added loaded : Environment) : Prop :=
  ∀ name, loaded.lookup name = (env.lookup name).or (added.lookup name)

theorem extends_self (env : Environment) : Extends env [] env := fun _ => by simp

theorem Extends.cons {env rest loaded : Environment} {name value : String}
    (h : Extends (extended env name value) rest loaded) :
    Extends env ((name, value) :: rest) loaded := by
  intro other
  rw [h other, lookup_extended, List.lookup_append, Option.or_assoc, ← List.lookup_append]
  rfl

theorem isIdle_cases (line : List Char) :
    (isIdle line = true ∧ (Text.trim line = [] ∨ ∃ cs, Text.trim line = '#' :: cs)) ∨
    (isIdle line = false ∧ ∃ c cs, Text.trim line = c :: cs ∧ c ≠ '#') := by
  unfold isIdle
  cases Text.trim line with
  | nil => exact .inl ⟨rfl, .inl rfl⟩
  | cons c cs =>
    by_cases hc : c = '#'
    · subst hc
      exact .inl ⟨rfl, .inr ⟨cs, rfl⟩⟩
    · exact .inr ⟨by simp [hc], c, cs, rfl, hc⟩

theorem readLines_idle {env : Environment} {line : List Char} (h : isIdle line = true)
    (rest : List (List Char)) : readLines env (line :: rest) = readLines env rest := by
  obtain ⟨-, hnil | ⟨cs, hcons⟩⟩ | ⟨hfalse, -⟩ := isIdle_cases line
  · simp [readLines, hnil]
  · simp [readLines, hcons]
  · cases hfalse.symm.trans h

theorem readLines_entry {env : Environment} {line : List Char} (h : isIdle line = false)
    (rest : List (List Char)) :
    readLines env (line :: rest) =
      match readEntry env (Text.trim line) with
      | some (name, value) => (define? env name value).bind (readLines · rest)
      | none => some env := by
  obtain ⟨htrue, -⟩ | ⟨-, c, cs, hcons, hc⟩ := isIdle_cases line
  · cases htrue.symm.trans h
  · rw [readLines, hcons]
    split
    · next heq => cases heq
    · next heq => exact absurd (List.cons.inj heq).1 hc
    · rfl

/-- Loading a file succeeds just where all its values can be set. Variables of the environment
hide those of the file, and of two entries of one name the first counts. -/
theorem readLines_entries (env : Environment) (ls : List (List Char)) :
    (Settable env (entries env ls) →
      ∃ loaded, readLines env ls = some loaded ∧ Extends env (entries env ls) loaded) ∧
    (¬Settable env (entries env ls) → readLines env ls = none) := by
  induction ls generalizing env with
  | nil =>
    exact ⟨fun _ => ⟨env, rfl, extends_self env⟩, fun h => absurd (settable_nil env) h⟩
  | cons line rest ih =>
    rw [entries]
    split
    · next hidle =>
      rw [readLines_idle hidle]
      exact ih env
    · next hline =>
      rw [readLines_entry (Bool.not_eq_true _ ▸ hline)]
      split
      · next name value _ =>
        obtain ⟨hload, hspoilt⟩ := ih (extended env name value)
        rw [settable_cons]
        by_cases hvalue : env.lookup name = none → '\x00' ∉ value.toList
        · rw [define?_eq_some hvalue, Option.bind_some]
          constructor
          · rintro ⟨-, hrest⟩
            obtain ⟨loaded, hread, hextends⟩ := hload hrest
            exact ⟨loaded, hread, hextends.cons⟩
          · intro h
            exact hspoilt fun hrest => h ⟨hvalue, hrest⟩
        · rw [define?_eq_none hvalue]
          exact ⟨fun h => absurd h.1 hvalue, fun _ => rfl⟩
      · exact ⟨fun _ => ⟨env, rfl, extends_self env⟩, fun h => absurd (settable_nil env) h⟩

end EnvFile
end FixedDecimal
