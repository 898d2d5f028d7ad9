import Mathlib.Data.List.Induction

/-!
# Hash chains

A list of contents, each with a digest of itself and of the digest before it. The last digest binds the whole list, as
long as the digests taken along two lists do not collide.
-/

namespace IotPlatform.HashChain

variable {α δ : Type}

/-- Every digest is that of its content and the digest before it. -/
def Chained (mac : α → δ → δ) (prev : δ) : List (α × δ) → Prop
  | [] => True
  | (x, digest) :: rest => digest = mac x prev ∧ Chained mac digest rest

def lastDigest (prev : δ) : List (α × δ) → δ
  | [] => prev
  | (_, digest) :: rest => lastDigest digest rest

/-- What digests are taken of along the list. -/
def links (prev : δ) : List (α × δ) → List (α × δ)
  | [] => []
  | (x, digest) :: rest => (x, prev) :: links digest rest

variable {mac : α → δ → δ} {prev : δ}

theorem chained_append (xs ys : List (α × δ)) :
    Chained mac prev (xs ++ ys) ↔ Chained mac prev xs ∧ Chained mac (lastDigest prev xs) ys := by
  induction xs generalizing prev with
  | nil => simp [Chained, lastDigest]
  | cons pair rest ih =>
    obtain ⟨x, digest⟩ := pair
    rw [List.cons_append, Chained, Chained, ih, and_assoc]
    rfl

/-- Another start is as good only if the first digest does not tell the difference. -/
theorem chained_start {start : δ} {x : α} {digest : δ} {rest : List (α × δ)}
    (chained : Chained mac prev ((x, digest) :: rest)) :
    Chained mac start ((x, digest) :: rest) ↔ mac x prev = mac x start := by
  obtain ⟨first, tail⟩ := chained
  constructor
  · rintro ⟨other, -⟩
    exact first.symm.trans other
  · intro same
    exact ⟨first.trans same, tail⟩

theorem links_append (xs ys : List (α × δ)) :
    links prev (xs ++ ys) = links prev xs ++ links (lastDigest prev xs) ys := by
  induction xs generalizing prev with
  | nil => rfl
  | cons pair rest ih =>
    obtain ⟨x, digest⟩ := pair
    exact congrArg _ ih

theorem lastDigest_concat (xs : List (α × δ)) (x : α) (digest : δ) : lastDigest prev (xs ++ [(x, digest)]) = digest := by
  induction xs generalizing prev with
  | nil => rfl
  | cons pair rest ih => exact ih

/-- Two digests taken along the lists are the same only of the same content and predecessor. -/
def CollisionFree (mac : α → δ → δ) (taken : List (α × δ)) : Prop :=
  ∀ p ∈ taken, ∀ q ∈ taken, mac p.1 p.2 = mac q.1 q.2 → p = q

/-- The last digest binds the list: the argument goes backwards from it. -/
theorem chained_unique {xs ys : List (α × δ)} (length : xs.length = ys.length) (left : Chained mac prev xs)
    (right : Chained mac prev ys) (last : lastDigest prev xs = lastDigest prev ys)
    (free : CollisionFree mac (links prev xs ++ links prev ys)) : xs = ys := by
  induction xs using List.reverseRecOn generalizing ys with
  | nil => exact (List.length_eq_zero_iff.mp length.symm).symm
  | append_singleton xs pair ih =>
    obtain ⟨x, digest⟩ := pair
    obtain rfl | ⟨ys, ⟨y, digest'⟩, rfl⟩ := List.eq_nil_or_concat ys
    · simp at length
    rw [List.concat_eq_append] at length right last free ⊢
    rw [lastDigest_concat, lastDigest_concat] at last
    obtain rfl := last
    obtain ⟨leftInit, ofX, -⟩ := (chained_append xs _).mp left
    obtain ⟨rightInit, ofY, -⟩ := (chained_append ys _).mp right
    rw [links_append, links_append] at free
    have same : (x, lastDigest prev xs) = (y, lastDigest prev ys) :=
      free _ (by simp [links]) _ (by simp [links]) (ofX.symm.trans ofY)
    obtain ⟨rfl, before⟩ := Prod.mk.inj same
    have shorter : xs.length = ys.length := by simpa using length
    rw [ih shorter leftInit rightInit before fun p known q known' => free p ?_ q ?_]
    · rcases List.mem_append.mp known with inXs | inYs
      · simp [inXs]
      · simp [inYs]
    · rcases List.mem_append.mp known' with inXs | inYs
      · simp [inXs]
      · simp [inYs]

end IotPlatform.HashChain
