import Mathlib.Data.List.Basic
import SyntaxKit.Grammar.Basic

/-!
# Words of rules

Three facts about the sequences of letters that a rule has.  A rule that stands under a field has the
words that it has by itself, with the field given to the letters that have none (`Word.under`).
Where every letter of a word is replaced by a word that it stands for, in whatever way the rules are
read, the outcome is again a word of the rule (`Word.substitute`).  And a rule can have the word
without letters only if its form allows it (`Word.mayVanish`).
-/

namespace SyntaxKit.Grammar

/-- A letter that is given a field unless it has one of its own. -/
def Letter.under (f : Option String) (l : Letter) : Letter :=
  ⟨l.kind, l.field.orElse fun _ => f⟩

namespace Word

variable {v v' : Reading} {r : Rule} {w : List Letter}

theorem isSome_field {f : Option String} (h : Word v f r w) (hf : f.isSome = true) :
    ∀ l ∈ w, l.field.isSome = true := by
  induction h with
  | blank f => simp
  | keep f _ | list f _ => simpa using hf
  | expand _ _ ih | left _ _ ih | right _ _ ih | once _ ih => exact ih hf
  | seq _ _ ih ih' | more _ _ ih ih' =>
    exact List.forall_mem_append.mpr ⟨ih hf, ih' hf⟩
  | field _ ih => exact ih rfl

/-- **A rule that stands under a field has its own words with the field.** -/
theorem under {g : Option String} (h : Word v g r w) (hg : g = none) (f : Option String) :
    Word v f r (w.map (·.under f)) := by
  induction h with
  | blank g => exact .blank f
  | keep g h =>
    subst hg
    exact .keep f h
  | list g h =>
    subst hg
    exact .list f h
  | expand h _ ih => exact .expand h (ih hg)
  | left s _ ih => exact .left s (ih hg)
  | right r _ ih => exact .right r (ih hg)
  | once _ ih => exact .once (ih hg)
  | seq _ _ ih ih' =>
    rw [List.map_append]
    exact .seq (ih hg) (ih' hg)
  | more _ _ ih ih' =>
    rw [List.map_append]
    exact .more (ih hg) (ih' hg)
  | @field g name r w word _ =>
    -- all of these letters have a field of their own
    have hsame : w.map (·.under f) = w.map id := by
      refine List.map_congr_left fun l hl => ?_
      obtain ⟨name, hname⟩ := Option.isSome_iff_exists.mp (word.isSome_field rfl l hl)
      cases l
      simp_all [Letter.under]
    rw [hsame, List.map_id]
    exact .field word

/-- What a letter stands for, read in another way. -/
structure Fills (v v' : Reading) (l : Letter) (u : List Letter) : Prop where
  item : v.keeps l.kind = true → Word v' l.field (.item l.kind) u
  list : ∀ r, v.list? l.kind = some r → Word v' l.field (.many r) u

/-- **Putting words in the place of letters gives a word of the rule.** -/
theorem substitute (hexpand : ∀ k r, v.expand? k = some r → v'.expand? k = some r)
    {f : Option String} (h : Word v f r w) :
    ∀ ps : List (Letter × List Letter), ps.map (·.1) = w → (∀ p ∈ ps, Fills v v' p.1 p.2) →
      Word v' f r (ps.flatMap (·.2)) := by
  induction h with
  | blank f =>
    rintro ps hps -
    rw [List.map_eq_nil_iff.mp hps]
    exact .blank f
  | keep f h =>
    intro ps hps hfills
    obtain ⟨p, rfl, hp⟩ := List.map_eq_singleton_iff.mp hps
    have hfill := hfills p (List.mem_singleton_self p)
    rw [hp] at hfill
    simpa using hfill.item h
  | list f h =>
    intro ps hps hfills
    obtain ⟨p, rfl, hp⟩ := List.map_eq_singleton_iff.mp hps
    have hfill := hfills p (List.mem_singleton_self p)
    rw [hp] at hfill
    simpa using hfill.list _ h
  | expand h _ ih => exact fun ps hps hfills => .expand (hexpand _ _ h) (ih ps hps hfills)
  | left s _ ih => exact fun ps hps hfills => .left s (ih ps hps hfills)
  | right r _ ih => exact fun ps hps hfills => .right r (ih ps hps hfills)
  | once _ ih => exact fun ps hps hfills => .once (ih ps hps hfills)
  | field _ ih => exact fun ps hps hfills => .field (ih ps hps hfills)
  | seq _ _ ih ih' =>
    intro ps hps hfills
    obtain ⟨front, back, rfl, hfront, hback⟩ := List.map_eq_append_iff.mp hps
    rw [List.flatMap_append]
    exact .seq (ih front hfront fun p hp => hfills p (List.mem_append_left _ hp))
      (ih' back hback fun p hp => hfills p (List.mem_append_right _ hp))
  | more _ _ ih ih' =>
    intro ps hps hfills
    obtain ⟨front, back, rfl, hfront, hback⟩ := List.map_eq_append_iff.mp hps
    rw [List.flatMap_append]
    exact .more (ih front hfront fun p hp => hfills p (List.mem_append_left _ hp))
      (ih' back hback fun p hp => hfills p (List.mem_append_right _ hp))

end Word

/-! ## Words without letters -/

/-- Whether a rule may have no letters, given the kinds that may stand for nothing. -/
def Rule.mayVanish (vanishes : Kind → Bool) : Rule → Bool
  | blank => true
  | item k => vanishes k
  | seq r s => r.mayVanish vanishes && s.mayVanish vanishes
  | choice r s => r.mayVanish vanishes || s.mayVanish vanishes
  | many r => r.mayVanish vanishes
  | field _ r => r.mayVanish vanishes

theorem Word.mayVanish {v : Reading} {vanishes : Kind → Bool}
    (hexpand : ∀ k r, v.expand? k = some r → r.mayVanish vanishes = true → vanishes k = true)
    {f : Option String} {r : Rule} {w : List Letter} (h : Word v f r w) (hw : w = []) :
    r.mayVanish vanishes = true := by
  induction h with
  | blank f => rfl
  | keep f h | list f h => simp at hw
  | expand h _ ih => exact hexpand _ _ h (ih hw)
  | left s _ ih => simp [Rule.mayVanish, ih hw]
  | right r _ ih => simp [Rule.mayVanish, ih hw]
  | once _ ih => exact ih hw
  | field _ ih => exact ih hw
  | seq _ _ ih ih' =>
    obtain ⟨hfirst, hsecond⟩ := List.append_eq_nil_iff.mp hw
    simp [Rule.mayVanish, ih hfirst, ih' hsecond]
  | more _ _ ih ih' => exact ih (List.append_eq_nil_iff.mp hw).1

/-! ## Literals -/

/-- Whether a rule is a choice of literals. -/
def Rule.isLiteral : Rule → Bool
  | item (.literal _) => true
  | choice r s => r.isLiteral && s.isLiteral
  | _ => false

/-- A choice of literals has only words of one literal. -/
theorem Word.of_isLiteral {v : Reading} (hexpand : ∀ text, v.expand? (.literal text) = none)
    {f : Option String} {r : Rule} {w : List Letter} (h : Word v f r w) (hr : r.isLiteral = true) :
    ∃ text, w = [⟨.literal text, f⟩] := by
  induction h with
  | @keep f k h =>
    cases k with
    | literal text => exact ⟨text, rfl⟩
    | rule name => simp [Rule.isLiteral] at hr
    | separator => simp [Rule.isLiteral] at hr
  | @expand f k r w h _ _ =>
    cases k with
    | literal text => simp [hexpand] at h
    | rule name => simp [Rule.isLiteral] at hr
    | separator => simp [Rule.isLiteral] at hr
  | left s _ ih => exact ih (Bool.and_eq_true_iff.mp hr).1
  | right r _ ih => exact ih (Bool.and_eq_true_iff.mp hr).2
  | blank f | seq _ _ | once _ | more _ _ | list f _ | field _ => simp [Rule.isLiteral] at hr

/-- Whether a kind stands in a rule. -/
def Rule.mentions (k : Kind) : Rule → Bool
  | blank => false
  | item k' => k' == k
  | seq r s | choice r s => r.mentions k || s.mentions k
  | many r | field _ r => r.mentions k

/-- What is in a word of a rule stands in the rule or in one that is expanded. -/
theorem Word.mentions {v : Reading} (hlist : ∀ k, v.list? k = none) {f : Option String} {r : Rule}
    {w : List Letter} (h : Word v f r w) {l : Letter} (hl : l ∈ w) :
    r.mentions l.kind = true ∨ ∃ k r', v.expand? k = some r' ∧ r'.mentions l.kind = true := by
  induction h with
  | blank f => simp at hl
  | keep f h =>
    rw [List.mem_singleton.mp hl]
    simp [Rule.mentions]
  | expand h _ ih => exact .inr ((ih hl).elim (fun hr => ⟨_, _, h, hr⟩) id)
  | list f h => simp [hlist] at h
  | left s _ ih => exact (ih hl).imp_left fun hr => by simp [Rule.mentions, hr]
  | right r _ ih => exact (ih hl).imp_left fun hr => by simp [Rule.mentions, hr]
  | once _ ih | field _ ih => exact ih hl
  | seq _ _ ih ih' =>
    rcases List.mem_append.mp hl with hl | hl
    · exact (ih hl).imp_left fun hr => by simp [Rule.mentions, hr]
    · exact (ih' hl).imp_left fun hr => by simp [Rule.mentions, hr]
  | more _ _ ih ih' => exact (List.mem_append.mp hl).elim ih ih'

end SyntaxKit.Grammar
