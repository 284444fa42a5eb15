import Mathlib.Data.List.Basic
import Mathlib.Tactic.Common

/-!
# Bounded byte queues

The record-less `kfifo`: a queue of at most `size` cells that silently cuts what does not
fit and hands out less when less is there.
-/

namespace Devlib

structure Kfifo (β : Type) where
  size : ℕ
  data : List β

namespace Kfifo

variable {β : Type}

def kfifoAvail (f : Kfifo β) : ℕ := f.size - f.data.length

def kfifoIn (f : Kfifo β) (src : List β) : Kfifo β :=
  { f with data := f.data ++ src.take f.kfifoAvail }

def kfifoOut (f : Kfifo β) (n : ℕ) : List β × Kfifo β :=
  (f.data.take n, { f with data := f.data.drop n })

def kfifoReset (f : Kfifo β) : Kfifo β := { f with data := [] }

@[simp] lemma size_kfifoIn (f : Kfifo β) (src : List β) : (f.kfifoIn src).size = f.size := rfl

/-- What fits is appended whole. -/
lemma data_kfifoIn (f : Kfifo β) (src : List β) (h : src.length ≤ f.kfifoAvail) :
    (f.kfifoIn src).data = f.data ++ src := by
  simp [kfifoIn, List.take_of_length_le h]

lemma kfifoAvail_kfifoIn (f : Kfifo β) (src : List β) (h : src.length ≤ f.kfifoAvail) :
    (f.kfifoIn src).kfifoAvail = f.kfifoAvail - src.length := by
  simp only [kfifoAvail, size_kfifoIn, data_kfifoIn f src h, List.length_append]
  omega

/-- Two pieces that fit together are appended one after the other. -/
lemma data_kfifoIn_kfifoIn (f : Kfifo β) (a b : List β)
    (h : a.length + b.length ≤ f.kfifoAvail) :
    ((f.kfifoIn a).kfifoIn b).data = f.data ++ a ++ b := by
  have ha : a.length ≤ f.kfifoAvail := by omega
  rw [data_kfifoIn _ b, data_kfifoIn f a ha]
  rw [kfifoAvail_kfifoIn f a ha]
  omega

end Kfifo

end Devlib
