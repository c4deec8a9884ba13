import Mathlib.Algebra.Order.BigOperators.Group.Finset
import Patala.Fiat.Conduct
import Patala.Lib.Interleaved

/-! Any number of calls on a rail, made at the same time or one after another, and what its
processor sees of them. -/

namespace Patala.Fiat

open Dialogue (spent)

inductive WireCall where
  | charge (moment : Moment) (req : PayRequest)
  | verify (moment : Moment) (receipt : Receipt)
  | refund (moment : Moment) (receipt : Receipt)

namespace WireCall

/-- What a call exchanges with the processor before it ends. -/
def Exchanges (rail : WireRail) (transcript : List (Request × Reply)) : WireCall → Prop
  | charge moment req => ∃ outcome, (rail.charge moment req).Yields transcript outcome
  | verify moment receipt => ∃ outcome, (rail.verify moment receipt).Yields transcript outcome
  | refund moment receipt => ∃ outcome, (rail.refund moment receipt).Yields transcript outcome

/-- What a call exchanges before it ends without an error. -/
def Succeeds (rail : WireRail) (transcript : List (Request × Reply)) : WireCall → Prop
  | charge moment req => ∃ receipt, (rail.charge moment req).Yields transcript (.ok receipt)
  | verify moment receipt => ∃ answer, (rail.verify moment receipt).Yields transcript (.ok answer)
  | refund moment receipt => ∃ refunded, (rail.refund moment receipt).Yields transcript (.ok refunded)

/-- How often a call may act. -/
def most (rail : WireRail) : WireCall → Nat
  | charge _ _ => rail.opens
  | verify _ _ => rail.captures
  | refund _ _ => rail.givesBack

/-- How often a call has acted when it succeeded. -/
def least (rail : WireRail) : WireCall → Nat
  | charge _ _ => rail.opens
  | verify _ _ => 0
  | refund _ _ => rail.givesBack

def isVerify : WireCall → Bool
  | verify _ _ => true
  | _ => false

variable {rail : WireRail} {call : WireCall} {transcript : List (Request × Reply)}

theorem Exchanges.spent_le (ran : call.Exchanges rail transcript) :
    spent rail.acts transcript ≤ call.most rail := by
  cases call with
  | charge moment req =>
    obtain ⟨outcome, run⟩ := ran
    exact (rail.charge_spends moment req).atMost run
  | verify moment receipt =>
    obtain ⟨outcome, run⟩ := ran
    exact (rail.verify_spends moment receipt).atMost run
  | refund moment receipt =>
    obtain ⟨outcome, run⟩ := ran
    exact (rail.refund_spends moment receipt).atMost run

theorem Succeeds.le_spent (succeeded : call.Succeeds rail transcript) :
    call.least rail ≤ spent rail.acts transcript := by
  cases call with
  | charge moment req =>
    obtain ⟨receipt, run⟩ := succeeded
    exact (rail.charge_spends moment req).atLeast run
  | verify moment receipt => exact Nat.zero_le _
  | refund moment receipt =>
    obtain ⟨refunded, run⟩ := succeeded
    exact (rail.refund_spends moment receipt).atLeast run

/-- Where a rail captures nothing, its verifications only look. -/
theorem Exchanges.looks (ran : call.Exchanges rail transcript) (quiet : rail.captures = 0)
    (checks : call.isVerify = true) : ∀ entry ∈ transcript, rail.acts entry.1 = false := by
  cases call with
  | charge moment req => cases checks
  | verify moment receipt =>
    have bounded := ran.spent_le
    rw [most, quiet] at bounded
    exact Dialogue.spent_eq_zero.mp (Nat.le_zero.mp bounded)
  | refund moment receipt => cases checks

end WireCall

/-- Calls on a rail, and the log of their exchanges in the order the processor has them. -/
structure Session (rail : WireRail) (ι : Type) [DecidableEq ι] where
  calls : ι → WireCall
  transcripts : ι → List (Request × Reply)
  log : List (Request × Reply)
  ran : ∀ i, (calls i).Exchanges rail (transcripts i)
  merged : Interleaved transcripts log

namespace Session

variable {rail : WireRail} {ι : Type} [DecidableEq ι] (session : Session rail ι)

/-- The processor is asked to act no more often than calls were made that may, and no less often
than calls succeeded that must have. -/
theorem acts_between [Fintype ι] {succeeded : Finset ι}
    (done : ∀ i ∈ succeeded, (session.calls i).Succeeds rail (session.transcripts i)) :
    ∑ i ∈ succeeded, (session.calls i).least rail ≤
        spent rail.acts session.log ∧
      spent rail.acts session.log ≤
        ∑ i, (session.calls i).most rail := by
  have total : spent rail.acts session.log =
      ∑ i, spent rail.acts (session.transcripts i) :=
    session.merged.countP_eq _
  rw [total]
  constructor
  · calc ∑ i ∈ succeeded, (session.calls i).least rail
        ≤ ∑ i ∈ succeeded, spent rail.acts (session.transcripts i) :=
          Finset.sum_le_sum fun i member => (done i member).le_spent
      _ ≤ ∑ i, spent rail.acts (session.transcripts i) :=
          Finset.sum_le_sum_of_subset (Finset.subset_univ _)
  · exact Finset.sum_le_sum fun i _ => (session.ran i).spent_le

/-- The calls of a session that are no verifications. -/
abbrev Others : Type := {i // (session.calls i).isVerify = false}

/-- Where looking changes nothing at the processor, the verifications of a session can be left out:
the other calls exchange what they did, and lead to the same state. -/
theorem without_checks (quiet : rail.captures = 0) {σ : Type}
    {processor : System σ (Request × Reply)} {start final : σ}
    (steady : ∀ before question answer after, processor.Step before (question, answer) after →
      rail.acts question = false → after = before)
    (path : processor.Path start session.log final) :
    ∃ rest : Session rail session.Others,
      (∀ i, rest.calls i = session.calls i ∧ rest.transcripts i = session.transcripts i) ∧
      processor.Path start rest.log final := by
  have still : ∀ i, (session.calls i).isVerify = true → ∀ entry ∈ session.transcripts i,
      ∀ {before after : σ}, processor.Step before entry after → after = before := by
    intro i checks entry member before after step
    exact steady _ _ _ _ step ((session.ran i).looks quiet checks entry member)
  obtain ⟨kept, remaining, leads⟩ := session.merged.path_without path still
  have silent : ∀ i, ¬ (session.calls i).isVerify = false →
      (if (session.calls i).isVerify = true then [] else session.transcripts i) = [] := by
    intro i checks
    exact if_pos (by simpa using checks)
  have others := remaining.restrict silent
  refine ⟨⟨fun i => session.calls i, fun i => session.transcripts i, kept, fun i => session.ran i,
    ?_⟩, fun i => ⟨rfl, rfl⟩, leads⟩
  convert others using 2 with i
  rw [if_neg (by simp [i.2])]

end Session

namespace Sample

def shopWire : WireRail := .razorpay shopRazorpay

def noon : Moment := ⟨1700000000, "r"⟩

/-- An order, and a look at it that finds it unpaid. -/
def callsOfDay (last : Bool) : WireCall :=
  if last then .verify noon rupeeReceipt else .charge noon rupeeRequest

theorem charged : ∃ transcript, (shopWire.charge noon rupeeRequest).Yields transcript (.ok rupeeReceipt) := by
  have replayed : ((shopWire.charge noon rupeeRequest).replay
      [.answered 200 orderCreated]).bind Except.toOption = some rupeeReceipt := by
    decide +kernel
  obtain ⟨transcript, -, run⟩ := Dialogue.exists_yields_of_replay replayed
  exact ⟨transcript, run⟩

theorem looked : ∃ transcript,
    (shopWire.verify noon rupeeReceipt).Yields transcript (.ok (some false)) := by
  have replayed : ((shopWire.verify noon rupeeReceipt).replay
      [.answered 200 (listing "authorized")]).bind Except.toOption = some (some false) := by
    decide +kernel
  obtain ⟨transcript, -, run⟩ := Dialogue.exists_yields_of_replay replayed
  exact ⟨transcript, run⟩

/-- The two calls, one after the other. -/
theorem exists_day : ∃ day : Session shopWire Bool, day.calls = callsOfDay ∧
    (day.calls false).Succeeds shopWire (day.transcripts false) := by
  obtain ⟨creation, opened⟩ := charged
  obtain ⟨lookup, found⟩ := looked
  refine ⟨⟨callsOfDay, fun last => if last then lookup else creation, creation ++ lookup, ?_,
    .one_after_another creation lookup⟩, rfl, ⟨rupeeReceipt, opened⟩⟩
  intro last
  cases last with
  | false => exact ⟨_, opened⟩
  | true => exact ⟨_, found⟩

/-- A processor that counts what it was asked to do. -/
def counting (rail : WireRail) : System Nat (Request × Reply) where
  Start := fun count => count = 0
  Step := fun before exchange after => after = before + if rail.acts exchange.1 then 1 else 0

theorem counting_path (rail : WireRail) (log : List (Request × Reply)) :
    ∀ start, ∃ final, (counting rail).Path start log final := by
  induction log with
  | nil => exact fun start => ⟨start, .here start⟩
  | cons exchange rest ih =>
    intro start
    obtain ⟨final, later⟩ := ih (start + if rail.acts exchange.1 then 1 else 0)
    exact ⟨final, .next rfl later⟩

end Sample

theorem acts_between_day : ∃ day : Session Sample.shopWire Bool,
    ∑ i ∈ {false}, (day.calls i).least Sample.shopWire ≤ spent Sample.shopWire.acts day.log ∧
      spent Sample.shopWire.acts day.log ≤ ∑ i, (day.calls i).most Sample.shopWire := by
  obtain ⟨day, -, opened⟩ := Sample.exists_day
  refine ⟨day, day.acts_between ?_⟩
  intro i member
  rw [Finset.mem_singleton.mp member]
  exact opened

theorem without_checks_day : ∃ (day : Session Sample.shopWire Bool) (final : Nat)
    (rest : Session Sample.shopWire day.Others),
    (∀ i, rest.calls i = day.calls i ∧ rest.transcripts i = day.transcripts i) ∧
      (Sample.counting Sample.shopWire).Path 0 rest.log final := by
  obtain ⟨day, -, -⟩ := Sample.exists_day
  obtain ⟨final, path⟩ := Sample.counting_path Sample.shopWire day.log 0
  refine ⟨day, final, day.without_checks rfl ?_ path⟩
  intro before question answer after step looks
  simpa [Sample.counting, looks] using step

end Patala.Fiat
