import Mathlib.Data.List.Forall2
import SpokenSales.Json.Reader

/-!
# Readers that follow another

A reader follows another one if it accepts every text that the other accepts, takes the same part
of it off, and gives a related value.  Readers of lists and records follow each other if the
readers of the parts do.
-/

namespace SpokenSales
namespace Json

/-- Whether `follower` gives a value related to that of `reader` wherever `reader` gives one. -/
structure Follows (rel : α → β → Prop) (reader : Reader α) (follower : Reader β) : Prop where
  accepts : ∀ {text value rest}, reader text = .ok (value, rest) →
    ∃ value', follower text = .ok (value', rest) ∧ rel value value'

theorem Follows.refl (reader : Reader α) : Follows Eq reader reader := by
  constructor
  intro text value rest h
  exact ⟨value, h, rfl⟩

variable {rel : α → β → Prop} {reader : Reader α} {follower : Reader β}

theorem Follows.bind {rel' : γ → δ → Prop} {next : α × List Char → Except Fault (γ × List Char)}
    {next' : β × List Char → Except Fault (δ × List Char)} (h : Follows rel reader follower)
    (hnext : ∀ value value', rel value value' →
      Follows rel' (fun text => next (value, text)) (fun text => next' (value', text))) :
    Follows rel' (fun text => reader text >>= next) (fun text => follower text >>= next') := by
  constructor
  intro text result rest hread
  cases hvalue : reader text with
  | error fault =>
      rw [hvalue] at hread
      cases hread
  | ok taken =>
      rcases taken with ⟨value, after⟩
      rcases h.accepts hvalue with ⟨value', hvalue', hrel⟩
      rw [hvalue] at hread
      rw [hvalue']
      exact (hnext value value' hrel).accepts hread

theorem Follows.pure {value : α} {value' : β} (h : rel value value') :
    Follows rel (fun text => pure (value, text)) (fun text => pure (value', text)) := by
  constructor
  intro text result rest hread
  cases hread
  exact ⟨value', rfl, h⟩

theorem Follows.readAll (h : Follows rel reader follower) {text : List Char} {value : α}
    (hread : readAll reader text = .ok value) :
    ∃ value', readAll follower text = .ok value' ∧ rel value value' := by
  unfold Json.readAll at hread
  cases hresult : reader text with
  | error fault =>
      rw [hresult] at hread
      cases hread
  | ok result =>
      rcases result with ⟨found, rest⟩
      rw [hresult] at hread
      simp only at hread
      split at hread
      · rename_i hspace
        cases hread
        rcases h.accepts hresult with ⟨value', hfollower, hrel⟩
        refine ⟨value', ?_, hrel⟩
        unfold Json.readAll
        rw [hfollower]
        simp only
        rw [if_pos hspace]
      · cases hread

theorem follows_readWritten (value? : List Char → Option α) (reason : Mismatch) :
    Follows (fun value written => value? written = some value) (readWritten value? reason)
      readString := by
  constructor
  intro text value rest h
  unfold readWritten at h
  split at h
  · cases h
  · rename_i found after hstring
    split at h
    · rename_i hvalue
      cases h
      exact ⟨found, hstring, hvalue⟩
    · cases h

/-!
## Lists
-/

theorem Follows.readElements (h : Follows rel reader follower) (fuel : Nat) (first : Bool) :
    Follows (List.Forall₂ rel) (readElements reader fuel first)
      (readElements follower fuel first) := by
  constructor
  intro text values rest hread
  induction fuel generalizing first text values rest with
  | zero =>
      cases hread
  | succ fuel ih =>
      rw [Json.readElements] at hread ⊢
      cases hnext : nextElement? first text with
      | error fault =>
          rw [hnext] at hread
          cases hread
      | ok next =>
          rw [hnext] at hread
          cases next with
          | none =>
              cases hclose : closeList text with
              | error fault =>
                  simp only [hclose] at hread
                  cases hread
              | ok closed =>
                  simp only [hclose] at hread ⊢
                  cases hread
                  exact ⟨[], rfl, List.Forall₂.nil⟩
          | some element =>
              cases helement : reader element with
              | error fault =>
                  simp only [helement] at hread
                  cases hread
              | ok taken =>
                  rcases taken with ⟨value, after⟩
                  rcases h.accepts helement with ⟨value', hvalue, hrel⟩
                  simp only [helement] at hread
                  simp only [hvalue]
                  cases hothers : Json.readElements reader fuel false after with
                  | error fault =>
                      rw [hothers] at hread
                      cases hread
                  | ok others =>
                      rcases others with ⟨others, last⟩
                      rcases ih false hothers with ⟨others', hothers', hrels⟩
                      rw [hothers] at hread
                      cases hread
                      rw [hothers']
                      exact ⟨value' :: others', rfl, List.Forall₂.cons hrel hrels⟩

theorem Follows.readList (h : Follows rel reader follower) :
    Follows (List.Forall₂ rel) (readList reader) (readList follower) := by
  constructor
  intro text values rest hread
  unfold Json.readList at hread ⊢
  split at hread
  · exact (h.readElements _ _).accepts hread
  · cases hread

theorem Follows.readPosition (h : Follows rel reader follower) (first : Bool) :
    Follows rel (readPosition first reader) (readPosition first follower) := by
  constructor
  intro text value rest hread
  unfold Json.readPosition at hread ⊢
  split at hread
  · cases hread
  · cases hread
  · exact h.accepts hread

/-!
## Objects
-/

variable {state : σ → τ → Prop}

theorem Follows.readMember (h : Follows rel reader follower) {put : α → σ} {put' : β → τ}
    (hput : ∀ value value', rel value value' → state (put value) (put' value')) :
    Follows state (readMember reader put) (readMember follower put') := by
  constructor
  intro text result rest hread
  unfold Json.readMember at hread ⊢
  cases hcolon : skipColon text with
  | error fault =>
      rw [hcolon] at hread
      cases hread
  | ok after =>
      cases hvalue : reader after with
      | error fault =>
          simp only [hcolon, hvalue] at hread
          cases hread
      | ok taken =>
          rcases taken with ⟨value, last⟩
          rcases h.accepts hvalue with ⟨value', hvalue', hrel⟩
          simp only [hcolon, hvalue] at hread
          simp only [hvalue']
          cases hread
          exact ⟨put' value', rfl, hput value value' hrel⟩

theorem Follows.readOnce (h : Follows rel reader follower) (name : String) {seen : Option α}
    {seen' : Option β} (hseen : Option.Rel rel seen seen') {put : α → σ} {put' : β → τ}
    (hput : ∀ value value', rel value value' → state (put value) (put' value')) :
    Follows state (readOnce name seen reader put) (readOnce name seen' follower put') := by
  constructor
  intro text result rest hread
  unfold Json.readOnce at hread ⊢
  cases hseen with
  | some _ =>
      cases hread
  | none =>
      exact (h.readMember hput).accepts hread

theorem follows_skipMember {before : σ} {before' : τ} (h : state before before') :
    Follows state (skipMember before) (skipMember before') := by
  constructor
  intro text result rest hread
  unfold skipMember at hread ⊢
  cases hskip : (skipColon text).bind skipValue with
  | error fault =>
      rw [hskip] at hread
      cases hread
  | ok after =>
      rw [hskip] at hread
      cases hread
      exact ⟨before', rfl, h⟩

theorem follows_readMembers {member : MemberReader σ} {member' : MemberReader τ}
    (h : ∀ key {before before'}, state before before' →
      Follows state (member key before) (member' key before')) (fuel : Nat) (first : Bool)
    {before : σ} {before' : τ} (hbefore : state before before') :
    Follows state (readMembers member fuel first before)
      (readMembers member' fuel first before') := by
  constructor
  intro text result rest hread
  induction fuel generalizing first before before' text with
  | zero =>
      cases hread
  | succ fuel ih =>
      rw [readMembers] at hread ⊢
      cases hnext : nextMember? first text with
      | error fault =>
          rw [hnext] at hread
          cases hread
      | ok next =>
          rw [hnext] at hread
          cases next with
          | inr closed =>
              cases hread
              exact ⟨before', rfl, hbefore⟩
          | inl opened =>
              cases hkey : Quoted.read opened with
              | error fault =>
                  simp only [hkey] at hread
                  cases hread
              | ok taken =>
                  rcases taken with ⟨key, after⟩
                  cases hmember : member key before after with
                  | error fault =>
                      simp only [hkey, hmember] at hread
                      cases hread
                  | ok taken =>
                      rcases taken with ⟨middle, last⟩
                      rcases (h key hbefore).accepts hmember with ⟨middle', hmember', hmiddle⟩
                      simp only [hkey, hmember] at hread
                      simp only [hmember', hkey]
                      exact ih false hmiddle hread

theorem follows_readRecord {start : σ} {start' : τ} {member : MemberReader σ}
    {member' : MemberReader τ} {complete : σ → Except Mismatch α}
    {complete' : τ → Except Mismatch β} {fields : Reader α} {fields' : Reader β}
    (hstart : state start start')
    (hmember : ∀ key {before before'}, state before before' →
      Follows state (member key before) (member' key before'))
    (hcomplete : ∀ {last last' value}, state last last' → complete last = .ok value →
      ∃ value', complete' last' = .ok value' ∧ rel value value')
    (hfields : Follows rel fields fields') :
    Follows rel (readRecord start member complete fields)
      (readRecord start' member' complete' fields') := by
  constructor
  intro text value rest hread
  unfold readRecord at hread ⊢
  split at hread
  · rename_i opened hopened
    cases hmembers : readMembers member (opened.length + 1) true start opened with
    | error fault =>
        simp only [hmembers] at hread
        cases hread
    | ok taken =>
        rcases taken with ⟨last, after⟩
        rcases (follows_readMembers hmember _ _ hstart).accepts hmembers with
          ⟨last', hmembers', hlast⟩
        cases hvalue : complete last with
        | error reason =>
            simp only [hmembers, hvalue] at hread
            cases hread
        | ok found =>
            rcases hcomplete hlast hvalue with ⟨value', hvalue', hrel⟩
            simp only [hmembers, hvalue] at hread
            simp only [hmembers', hvalue']
            cases hread
            exact ⟨value', rfl, hrel⟩
  · rename_i opened hopened
    cases htaken : fields opened with
    | error fault =>
        simp only [htaken] at hread
        cases hread
    | ok taken =>
        rcases taken with ⟨found, after⟩
        rcases hfields.accepts htaken with ⟨value', htaken', hrel⟩
        cases hclose : closeList after with
        | error fault =>
            simp only [htaken, hclose] at hread
            cases hread
        | ok closed =>
            simp only [htaken, hclose] at hread
            simp only [htaken', hclose]
            cases hread
            exact ⟨value', rfl, hrel⟩
  · cases hread

end Json
end SpokenSales
