import Triplify.Xml.Namespaces
/-!
# Depth first

A visit with a stack takes the last of the pending places and puts what is inside of it there, in
reverse. So the first place inside is next, and the others wait until all below it has been visited.

`depthFirst_eq`: what is visited is what a recursion would visit, in its order, and the visit comes to
an end after so many steps.
-/

namespace Triplify.Xml.Document

/-- From some places one comes to these, each followed by all below it. -/
inductive Preorder (inside : Nat → List Nat) : List Nat → List Nat → Prop
  | nil : Preorder inside [] []
  | cons {place : Nat} {rest below after : List Nat} : Preorder inside (inside place) below →
      Preorder inside rest after → Preorder inside (place :: rest) (place :: below ++ after)

namespace Preorder

variable {inside : Nat → List Nat} {first first' places places' : List Nat}

theorem append (h : Preorder inside first places) (h' : Preorder inside first' places') :
    Preorder inside (first ++ first') (places ++ places') := by
  induction h with
  | nil => exact h'
  | @cons place rest below after hbelow _ _ ih =>
    rw [List.cons_append, List.append_assoc]
    exact .cons hbelow ih

/-- One place and all below it. -/
theorem one {place : Nat} {below : List Nat} (h : Preorder inside (inside place) below) :
    Preorder inside [place] (place :: below) := by
  have hone := Preorder.cons h .nil
  rwa [List.append_nil] at hone

/-- The first place is the first one to start from. -/
theorem head?_eq (h : Preorder inside first places) : first.head? = places.head? := by
  cases h <;> rfl

end Preorder

section
variable {α : Type} {inside : Nat → List Nat} {visit : α → Nat → α}

theorem depthFirst_nil (fuel : Nat) (a : α) : depthFirst inside visit fuel #[] a = some a := by
  unfold depthFirst
  rfl

theorem depthFirst_push (fuel : Nat) (pending : Array Nat) (place : Nat) (a : α) :
    depthFirst inside visit (fuel + 1) (pending.push place) a =
      depthFirst inside visit fuel (pending ++ (inside place).reverse) (visit a place) := by
  rw [depthFirst]
  simp

/-- Places on top of the stack are visited with all below them before the others are. -/
theorem depthFirst_append {first places : List Nat} (h : Preorder inside first places) (fuel : Nat)
    (pending : Array Nat) (a : α) :
    depthFirst inside visit (places.length + fuel) (pending ++ first.reverse) a =
      depthFirst inside visit fuel pending (places.foldl visit a) := by
  induction h generalizing fuel pending a with
  | nil => simp
  | @cons place rest below after _ _ ihbelow ihrest =>
    have hfuel : (place :: below ++ after).length + fuel =
        below.length + (after.length + fuel) + 1 := by
      simp only [List.cons_append, List.length_cons, List.length_append]
      omega
    have hpending : pending ++ (place :: rest).reverse = (pending ++ rest.reverse).push place := by
      apply Array.toList_inj.1
      simp
    calc depthFirst inside visit ((place :: below ++ after).length + fuel)
          (pending ++ (place :: rest).reverse) a
        = depthFirst inside visit (below.length + (after.length + fuel))
            (pending ++ rest.reverse ++ (inside place).reverse) (visit a place) := by
          rw [hfuel, hpending, depthFirst_push]
      _ = depthFirst inside visit (after.length + fuel) (pending ++ rest.reverse)
            (below.foldl visit (visit a place)) := ihbelow _ _ _
      _ = depthFirst inside visit fuel pending
            (after.foldl visit (below.foldl visit (visit a place))) := ihrest _ _ _
      _ = depthFirst inside visit fuel pending ((place :: below ++ after).foldl visit a) := by
          rw [List.cons_append, List.foldl_cons, List.foldl_append]

/-- The visit ends, and is that of the places one after the other. -/
theorem depthFirst_eq {first places : List Nat} (h : Preorder inside first places) {fuel : Nat}
    (hfuel : places.length ≤ fuel) (a : α) :
    depthFirst inside visit fuel first.reverse.toArray a = some (places.foldl visit a) := by
  obtain ⟨left, rfl⟩ := Nat.exists_eq_add_of_le hfuel
  have hall : depthFirst inside visit (places.length + left) (#[] ++ first.reverse) a =
      depthFirst inside visit left #[] (places.foldl visit a) := depthFirst_append h left #[] a
  rw [depthFirst_nil] at hall
  rw [← hall]
  simp

end

end Triplify.Xml.Document
