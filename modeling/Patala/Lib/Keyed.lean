import Mathlib.Data.List.Nodup
import Patala.Lib.System

/-! A party that makes a thing when it is asked to, under a key the question carries, and that makes
no second thing under a key that was used before. -/

namespace Patala

universe u v

/-- What a party has made in each state, and the key a question carries. -/
structure Keyed (σ : Type u) (Q A K V : Type v) where
  system : System σ (Q × A)
  made : σ → List (K × V)
  keyOf : Q → Option K

namespace Keyed

variable {σ : Type u} {Q A K V : Type v} (party : Keyed σ Q A K V)

/-- A step makes nothing, or one thing under the key of its question, which is a new one. -/
def Honours : Prop :=
  ∀ before question answer after, party.system.Step before (question, answer) after →
    party.made after = party.made before ∨
    ∃ key thing, party.keyOf question = some key ∧ key ∉ (party.made before).map Prod.fst ∧
      party.made after = party.made before ++ [(key, thing)]

/-- An answer that tells of a thing tells of the one made under the key of its question. -/
def Tells (told : A → Option V) : Prop :=
  ∀ before question answer after key thing, party.system.Step before (question, answer) after →
    party.keyOf question = some key → told answer = some thing → (key, thing) ∈ party.made after

variable {party} {start final : σ} {log : List (Q × A)}

structure Makes (party : Keyed σ Q A K V) (start : σ) (log : List (Q × A)) (final : σ)
    (added : List (K × V)) : Prop where
  kept : party.made final = party.made start ++ added
  asked : ∀ entry ∈ added, ∃ exchange ∈ log, party.keyOf exchange.1 = some entry.1
  once : ((party.made start).map Prod.fst).Nodup → ((party.made final).map Prod.fst).Nodup

theorem makes (honours : party.Honours) (path : party.system.Path start log final) :
    ∃ added, party.Makes start log final added := by
  induction path with
  | here state => exact ⟨[], by simp, by simp, id⟩
  | @next start middle final exchange log step rest ih =>
    obtain ⟨later, onward⟩ := ih
    rcases honours _ _ _ _ step with same | made
    · refine ⟨later, ?_, ?_, ?_⟩
      · rw [onward.kept, same]
      · intro entry member
        obtain ⟨found, inside, key⟩ := onward.asked entry member
        exact ⟨found, List.mem_cons_of_mem _ inside, key⟩
      · intro distinct
        exact onward.once (by rwa [same])
    · obtain ⟨key, thing, carried, unused, grown⟩ := made
      refine ⟨(key, thing) :: later, ?_, ?_, ?_⟩
      · rw [onward.kept, grown, List.append_assoc, List.singleton_append]
      · intro entry member
        rcases List.mem_cons.mp member with same | inside
        · exact ⟨exchange, by simp, by rw [same, carried]⟩
        · obtain ⟨found, within, named⟩ := onward.asked entry inside
          exact ⟨found, List.mem_cons_of_mem _ within, named⟩
      · intro distinct
        apply onward.once
        rw [grown, List.map_append, List.map_singleton]
        exact List.nodup_append'.mpr ⟨distinct, List.nodup_singleton _, by simpa using unused⟩

theorem told_made (honours : party.Honours) {told : A → Option V} (tells : party.Tells told)
    (path : party.system.Path start log final) {question : Q} {answer : A} {key : K} {thing : V}
    (member : (question, answer) ∈ log) (carried : party.keyOf question = some key)
    (heard : told answer = some thing) : (key, thing) ∈ party.made final := by
  obtain ⟨front, back, split⟩ := List.append_of_mem member
  rw [split] at path
  obtain ⟨reached, -, onward⟩ := path.cut
  cases onward with
  | next step rest =>
    have here := tells _ _ _ _ _ _ step carried heard
    obtain ⟨added, makes⟩ := Keyed.makes honours rest
    rw [makes.kept]
    exact List.mem_append_left _ here

theorem thing_unique (distinct : ((party.made final).map Prod.fst).Nodup) {key : K} {thing thing' : V}
    (first : (key, thing) ∈ party.made final) (second : (key, thing') ∈ party.made final) :
    thing = thing' := by
  have same := List.inj_on_of_nodup_map distinct first second rfl
  exact (Prod.mk.inj same).2

end Keyed

end Patala
