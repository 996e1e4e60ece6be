/-!
# Calendar days

Days of the Gregorian calendar, carried on before its introduction, with a year zero.  A day has
the proof that it exists, within a range of years that is wide but bounded.
-/

namespace SpokenSales

def isLeapYear (year : Int) : Bool :=
  year % 4 = 0 && (year % 100 != 0 || year % 400 = 0)

def daysInMonth (year : Int) (month : Nat) : Nat :=
  match month with
  | 2 => if isLeapYear year then 29 else 28
  | 4 | 6 | 9 | 11 => 30
  | _ => 31

def IsCalendarDay (year : Int) (month day : Nat) : Prop :=
  -262143 ≤ year ∧ year ≤ 262142 ∧ 1 ≤ month ∧ month ≤ 12 ∧ 1 ≤ day ∧ day ≤ daysInMonth year month

instance (year : Int) (month day : Nat) : Decidable (IsCalendarDay year month day) := by
  unfold IsCalendarDay
  infer_instance

structure Date where
  year : Int
  month : Nat
  day : Nat
  valid : IsCalendarDay year month day
deriving DecidableEq, Repr

namespace Date

def of? (year : Int) (month day : Nat) : Option Date :=
  if h : IsCalendarDay year month day then some ⟨year, month, day, h⟩ else none

def rank (date : Date) : Int :=
  512 * date.year + (32 * date.month + date.day : Nat)

theorem daysInMonth_le (year : Int) (month : Nat) : daysInMonth year month ≤ 31 := by
  unfold daysInMonth
  split <;> try split
  all_goals decide

theorem eq_of_rank_eq {a b : Date} (h : a.rank = b.rank) : a = b := by
  obtain ⟨y, m, d, hy, hy', hm, hm', hd, hd'⟩ := a
  obtain ⟨y', m', d', ky, ky', km, km', kd, kd'⟩ := b
  have hb := daysInMonth_le y m
  have kb := daysInMonth_le y' m'
  simp only [rank] at h
  have hyear : y = y' := by omega
  have hmonth : m = m' := by omega
  have hday : d = d' := by omega
  subst hyear hmonth hday
  rfl

end Date
end SpokenSales
