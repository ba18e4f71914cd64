import Mathlib.Data.List.Nodup
import Mathlib.Data.List.Perm.Subperm
import Mathlib.Order.Bounds.Defs
import MeshWatch.Profile.Book
import MeshWatch.Proofs.Text.Decimal

/-!
# The name of a new profile

Names are tried number by number until one is not taken. As different numbers have different
names, a book cannot have taken more of them than it has profiles, so the search ends after at
most one try more, at the least number whose name is free.
-/
namespace MeshWatch.Book

variable {taken : List String} {n tries count last : Nat}

theorem numberedName_injective : Function.Injective numberedName := by
  intro m n same
  have chars := congrArg String.toList same
  simp only [numberedName, String.toList_append, Text.toList_toString] at chars
  have digits := List.append_cancel_left chars
  have values := congrArg (Text.digitsValue 0) digits
  rwa [Text.digitsValue_toDigits, Text.digitsValue_toDigits] at values

/-- The search for a free name from number `n` on, without any bound: how many names are looked at
before it stops, and at which number it does. -/
inductive Search (taken : List String) : (n count last : Nat) → Prop
  | stop {n : Nat} (free : numberedName n ∉ taken) : Search taken n 1 n
  | next {n count last : Nat} (refused : numberedName n ∈ taken)
    (rest : Search taken (n + 1) count last) : Search taken n (count + 1) last

theorem Search.isLeast (search : Search taken n count last) :
    IsLeast {m | n ≤ m ∧ numberedName m ∉ taken} last := by
  induction search with
  | stop free => exact ⟨⟨Nat.le_refl _, free⟩, fun m candidate => candidate.1⟩
  | @next n count last refused rest ih =>
    obtain ⟨⟨le, free⟩, least⟩ := ih
    refine ⟨⟨Nat.le_of_succ_le le, free⟩, ?_⟩
    rintro m ⟨above, unused⟩
    refine least ⟨Nat.lt_of_le_of_ne above ?_, unused⟩
    rintro rfl
    exact unused refused

/-- If the name that is found is taken, so are all that were tried. -/
theorem forall_taken_of_firstFree (refused : numberedName (firstFree taken tries n) ∈ taken) :
    ∀ m, n ≤ m → m ≤ n + tries → numberedName m ∈ taken := by
  induction tries generalizing n with
  | zero =>
    intro m le ge
    obtain rfl := Nat.le_antisymm ge le
    exact refused
  | succ tries ih =>
    rw [firstFree] at refused
    split at refused
    case isTrue first =>
      intro m le ge
      obtain rfl | later := Nat.eq_or_lt_of_le le
      · exact first
      · exact ih refused m later (by omega)
    case isFalse free => exact absurd refused free

/-- A list has not room for one name more than it has items. -/
theorem exists_free (taken : List String) (n : Nat) :
    ∃ m, n ≤ m ∧ m ≤ n + taken.length ∧ numberedName m ∉ taken := by
  by_contra! none
  -- the names from `n` on would all be in the list, and no two of them are the same
  have different : ((List.range' n (taken.length + 1)).map numberedName).Nodup :=
    List.Nodup.map numberedName_injective List.nodup_range'
  have inside : (List.range' n (taken.length + 1)).map numberedName ⊆ taken := by
    intro name member
    obtain ⟨m, listed, rfl⟩ := List.mem_map.mp member
    obtain ⟨above, below⟩ := List.mem_range'_1.mp listed
    exact none m above (by omega)
  have fits := (List.subperm_of_subset different inside).length_le
  rw [List.length_map, List.length_range'] at fits
  omega

theorem firstFree_free (taken : List String) (n : Nat) :
    numberedName (firstFree taken taken.length n) ∉ taken := by
  obtain ⟨m, above, within, free⟩ := exists_free taken n
  intro refused
  exact free (forall_taken_of_firstFree refused m above within)

theorem search_firstFree (free : numberedName (firstFree taken tries n) ∉ taken) :
    ∃ count ≤ tries + 1, Search taken n count (firstFree taken tries n) := by
  induction tries generalizing n with
  | zero => exact ⟨1, Nat.le_refl _, .stop free⟩
  | succ tries ih =>
    rw [firstFree] at free ⊢
    split at free
    case isTrue refused =>
      obtain ⟨count, le, rest⟩ := ih free
      rw [if_pos refused]
      exact ⟨count + 1, Nat.succ_le_succ le, .next refused rest⟩
    case isFalse unused =>
      rw [if_neg unused]
      exact ⟨1, by omega, .stop unused⟩

theorem numberedName_eq (n : Nat) : numberedName n = "meshlens-" ++ toString n := rfl

theorem freeName_eq (b : Book) : b.freeName =
    numberedName (firstFree (b.profiles.map (·.instanceName)) b.profiles.length
      (b.profiles.length + 1)) := by
  rw [freeName, List.length_map]

theorem exists_named (b : Book) (supply : Supply) : ∃ p,
    (b.addNew supply).1.profiles = b.profiles ++ [p] ∧ p.instanceName = b.freeName :=
  ⟨_, rfl, rfl⟩

/-- The name of a new profile is that of the least free number from one more than the number of
profiles on. The search for it, without a bound of its own, looks at no more names than that. The
profile is put behind all others, which stay as they are. -/
theorem addNew_named (b : Book) (supply : Supply) : ∃ count N p,
    Search (b.profiles.map (·.instanceName)) (b.profiles.length + 1) count N ∧
    count ≤ b.profiles.length + 1 ∧
    IsLeast {m | b.profiles.length + 1 ≤ m ∧
      ∀ q ∈ b.profiles, q.instanceName ≠ "meshlens-" ++ toString m} N ∧
    (b.addNew supply).1.profiles = b.profiles ++ [p] ∧
    p.instanceName = "meshlens-" ++ toString N ∧
    ∀ q ∈ b.profiles, q.instanceName ≠ p.instanceName := by
  have free := firstFree_free (b.profiles.map (·.instanceName)) (b.profiles.length + 1)
  obtain ⟨count, le, search⟩ := search_firstFree free
  rw [List.length_map] at le search
  obtain ⟨p, added, named⟩ := b.exists_named supply
  rw [freeName_eq, numberedName_eq] at named
  have unused (m : Nat) : numberedName m ∉ b.profiles.map (·.instanceName) ↔
      ∀ q ∈ b.profiles, q.instanceName ≠ "meshlens-" ++ toString m := by
    simp [numberedName_eq]
  have least := search.isLeast
  simp only [unused] at least
  refine ⟨count, _, p, search, le, least, added, named, ?_⟩
  rw [named]
  exact least.1.2

end MeshWatch.Book
