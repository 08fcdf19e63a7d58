import TrafficRouting.Proofs.Text.Ranges
import TrafficRouting.Text.Pattern.Class

/-!
# TrafficRouting.Proofs.Text.Pattern.Class — classes that are read

Whatever stands between the brackets, a class that is read is tidy (`tidy_readClass?`): every part
is, and the reader takes parts together by operations that keep them so.  Therefore the operators
between parts say what their names promise (`ClassOperator.has_apply`), and a class behind a caret
has the other characters (`OpenClass.Tidy.has_closed?`).
-/

namespace TrafficRouting.Text

open Ranges (Tidy)

variable {c : Char} {a b : Ranges} {p : Portion} {ps : List Portion} {sw : Switches}
  {o : OpenClass} {s rest : List Char}

/-! ### Operators -/

theorem ClassOperator.tidy_apply (op : ClassOperator) (ha : a.Tidy) (hb : b.Tidy) :
    (op.apply a b).Tidy := by
  cases op with
  | both => exact Ranges.tidy_inter ha hb
  | without => exact Ranges.tidy_diff ha hb
  | either => exact Ranges.tidy_symmDiff ha hb

/-- What an operator says of a character that lies in the classes on its sides, or does not. -/
def ClassOperator.holds : ClassOperator → Bool → Bool → Bool
  | both, left, right => left && right
  | without, left, right => left && !right
  | either, left, right => left != right

/-- **Operators say what their names promise.** -/
theorem ClassOperator.has_apply (op : ClassOperator) (ha : a.Tidy) (hb : b.Tidy) :
    (op.apply a b).has c = op.holds (a.has c) (b.has c) := by
  cases op with
  | both => exact Ranges.has_inter
  | without => exact Ranges.has_diff hb
  | either => exact Ranges.has_symmDiff ha hb

/-! ### Parts -/

theorem tidy_foldl_union (h : ∀ p ∈ ps, p.among.Tidy) (ha : a.Tidy) :
    Tidy (ps.foldl (fun rs p => rs.union p.among) a) := by
  induction ps generalizing a with
  | nil => exact ha
  | cons p ps ih =>
    rw [List.forall_mem_cons] at h
    exact ih h.2 (Ranges.tidy_union ha h.1.proper)

theorem has_foldl_union (h : ∀ p ∈ ps, p.among.Tidy) (ha : a.Tidy) :
    Ranges.has (ps.foldl (fun rs p => rs.union p.among) a) c =
      (a.has c || ps.any fun p => p.among.has c) := by
  induction ps generalizing a with
  | nil => exact (Bool.or_false _).symm
  | cons p ps ih =>
    rw [List.forall_mem_cons] at h
    rw [List.foldl_cons, ih h.2 (Ranges.tidy_union ha h.1.proper),
      Ranges.has_union ha h.1.proper, List.any_cons, Bool.or_assoc]

theorem tidy_joined (h : ∀ p ∈ ps, p.among.Tidy) : (Portion.joined ps).among.Tidy :=
  tidy_foldl_union h Ranges.tidy_nil

/-- Parts side by side hold what lies in any of them. -/
theorem has_joined (h : ∀ p ∈ ps, p.among.Tidy) :
    (Portion.joined ps).among.has c = ps.any fun p => p.among.has c :=
  (has_foldl_union h Ranges.tidy_nil).trans (Bool.false_or _)

/-! ### Switches -/

namespace Switches

theorem tidy_fold (ha : a.Tidy) : (sw.fold a).Tidy := by
  unfold fold
  split
  · exact Ranges.tidy_bothCases ha
  · exact ha

/-- If cases are the same, a class has both of each letter. -/
theorem has_fold (ha : a.Tidy) :
    (sw.fold a).has c = (a.has c || sw.anyCase && (a.has c.toLower || a.has c.toUpper)) := by
  unfold fold
  split
  · rename_i hcase
    rw [Ranges.has_bothCases ha, hcase, Bool.true_and, Bool.or_assoc]
  · rename_i hcase
    rw [Bool.eq_false_iff.mpr hcase, Bool.false_and, Bool.or_false]

theorem eq_of_admit? (h : sw.admit? a = some b) : b = a := by
  unfold admit? at h
  split at h
  · split at h
    · cases h
    · exact (Option.some.inj h).symm
  · split at h
    · exact (Option.some.inj h).symm
    · cases h

theorem tidy_settle? {negated : Bool} (ha : a.Tidy) (h : sw.settle? negated a = some b) :
    b.Tidy := by
  unfold settle? at h
  dsimp only at h
  split at h
  · exact Option.some.inj h ▸ tidy_fold ha
  · split at h
    · exact Option.some.inj h ▸ Ranges.tidy_complement (tidy_fold ha)
    · cases h

/-- A caret takes the characters outside. -/
theorem has_settle? {negated : Bool} (ha : a.Tidy) (h : sw.settle? negated a = some b) :
    b.has c = (negated != (sw.fold a).has c) := by
  unfold settle? at h
  dsimp only at h
  split at h
  · rename_i hnegated
    rw [← Option.some.inj h]
    cases negated with
    | true => cases hnegated
    | false => exact (Bool.false_bne _).symm
  · rename_i hnegated
    split at h
    · rw [← Option.some.inj h, Ranges.has_complement (tidy_fold ha)]
      cases negated with
      | true => exact (Bool.true_bne _).symm
      | false => exact absurd rfl hnegated
    · cases h

theorem tidy_namedClass? {name : String} (h : namedClass? name = some a) : a.Tidy := by
  unfold namedClass? at h
  split at h
  case h_15 => cases h
  -- one of the tables
  all_goals
    rw [← Option.some.inj h]
    decide

theorem tidy_named? {negated : Bool} (h : named? s = some ((negated, a), rest)) : a.Tidy := by
  unfold named? at h
  split at h
  · dsimp only at h
    split at h
    · obtain ⟨rs, hrs, heq⟩ := Option.map_eq_some_iff.mp h
      obtain ⟨⟨-, rfl⟩, -⟩ := by simpa only [Prod.mk.injEq] using heq
      exact tidy_namedClass? hrs
    · cases h
  · cases h

/-- The classes that letters stand for are tables. -/
theorem tidy_ofLetter? (h : sw.ofLetter? c = some (.oneOf a)) : a.Tidy := by
  unfold ofLetter? at h
  dsimp only at h
  split at h
  case h_13 | h_14 | h_15 =>
    obtain ⟨rs, hrs, h⟩ := Option.bind_eq_some_iff.mp h
    obtain ⟨-, rfl⟩ : sw.unicode = false ∧ rs = a := by simpa using h
    exact tidy_namedClass? hrs
  -- a character or a place
  all_goals simp at h

/-- A number stands for one character. -/
theorem coded?_ne {n : Nat} : sw.coded? n s ≠ some (.oneOf a, rest) := by
  intro h
  obtain ⟨⟨value, s'⟩, -, h⟩ := Option.bind_eq_some_iff.mp h
  obtain ⟨d, -, h⟩ := Option.bind_eq_some_iff.mp h
  cases h

theorem tidy_escape? (h : sw.escape? s = some (.oneOf a, rest)) : a.Tidy := by
  unfold escape? at h
  split at h
  · cases h
  · split at h
    · obtain ⟨⟨value, s'⟩, -, h⟩ := Option.bind_eq_some_iff.mp h
      dsimp only at h
      split at h
      · cases h
      · obtain ⟨d, -, h⟩ := Option.bind_eq_some_iff.mp h
        cases h
    · split at h
      · exact absurd h coded?_ne
      · split at h
        · exact absurd h coded?_ne
        · obtain ⟨e, he, heq⟩ := Option.map_eq_some_iff.mp h
          obtain ⟨rfl, -⟩ := Prod.mk.inj heq
          exact tidy_ofLetter? he

theorem tidy_members? {e : Escape} (he : sw.member? s = some (e, rest))
    (h : Escape.members? e = some a) : a.Tidy := by
  cases e with
  | char d => exact Option.some.inj h ▸ Ranges.tidy_only d
  | oneOf rs =>
    obtain rfl := Option.some.inj h
    unfold member? at he
    split at he
    · cases he
    · exact tidy_escape? he
    · cases he
  | anchor _ => cases h

theorem tidy_range? (h : sw.range? s = some (a, rest)) : a.Tidy := by
  unfold range? at h
  obtain ⟨⟨e, s'⟩, he, h⟩ := Option.bind_eq_some_iff.mp h
  dsimp only at h
  split at h
  · obtain ⟨rs, hrs, h⟩ := Option.bind_eq_some_iff.mp h
    obtain ⟨rs', hadmit, h⟩ := Option.bind_eq_some_iff.mp h
    obtain ⟨rfl, -⟩ := Prod.mk.inj (Option.some.inj h)
    rw [eq_of_admit? hadmit]
    exact tidy_members? he hrs
  · obtain ⟨⟨e', s''⟩, -, h⟩ := Option.bind_eq_some_iff.mp h
    dsimp only at h
    split at h
    · split at h
      · rename_i hle
        obtain ⟨rs', hadmit, h⟩ := Option.bind_eq_some_iff.mp h
        obtain ⟨rfl, -⟩ := Prod.mk.inj (Option.some.inj h)
        rw [eq_of_admit? hadmit]
        exact Ranges.tidy_between hle
      · cases h
    · cases h

end Switches

/-! ### Reading a class -/

/-- All parts that have been read are tidy. -/
structure OpenClass.Tidy (o : OpenClass) : Prop where
  items : ∀ p ∈ o.items, p.among.Tidy
  left : ∀ p op, o.left? = some (p, op) → p.among.Tidy

namespace OpenClass

theorem Tidy.add (h : o.Tidy) (hp : p.among.Tidy) : (o.add p).Tidy :=
  ⟨List.forall_mem_cons.mpr ⟨hp, h.items⟩, h.left⟩

theorem Tidy.whole (h : o.Tidy) : (o.whole sw).among.Tidy := by
  have hright := tidy_joined h.items
  unfold OpenClass.whole
  dsimp only
  split
  · exact hright
  · rename_i left op hleft
    exact op.tidy_apply (Switches.tidy_fold (h.left left op hleft)) (Switches.tidy_fold hright)

/-- Without an operator, what lies in one of the parts. -/
theorem Tidy.has_whole_of_none (h : o.Tidy) (hleft : o.left? = none) :
    (o.whole sw).among.has c = o.items.any fun p => p.among.has c := by
  rw [OpenClass.whole, hleft]
  exact has_joined h.items

/-- Behind an operator, what it says of the classes on its sides. -/
theorem Tidy.has_whole_of_some (h : o.Tidy) {op : ClassOperator} (hleft : o.left? = some (p, op)) :
    (o.whole sw).among.has c = op.holds ((sw.fold p.among).has c)
      ((sw.fold (Portion.joined o.items).among).has c) := by
  rw [OpenClass.whole, hleft]
  exact op.has_apply (Switches.tidy_fold (h.left p op hleft))
    (Switches.tidy_fold (tidy_joined h.items))

theorem Tidy.operate (h : o.Tidy) (op : ClassOperator) : (o.operate sw op).Tidy where
  items := nofun
  left p op' hp := by
    obtain ⟨rfl, -⟩ := Prod.mk.inj (Option.some.inj hp)
    exact h.whole

theorem Tidy.closed? (h : o.Tidy) (hp : o.closed? sw = some p) : p.among.Tidy := by
  obtain ⟨rs, hrs, rfl⟩ := Option.map_eq_some_iff.mp hp
  exact Switches.tidy_settle? h.whole hrs

/-- **What lies in a class between its brackets**: what has been read, in both cases if they are the
same, or all other characters behind a caret. -/
theorem Tidy.has_closed? (h : o.Tidy) (hp : o.closed? sw = some p) :
    p.among.has c = (o.negated != ((o.whole sw).among.has c ||
      sw.anyCase && ((o.whole sw).among.has c.toLower || (o.whole sw).among.has c.toUpper))) := by
  obtain ⟨rs, hrs, rfl⟩ := Option.map_eq_some_iff.mp hp
  rw [Switches.has_settle? h.whole hrs, Switches.has_fold h.whole]

end OpenClass

namespace Switches

theorem tidy_openClass (sw : Switches) (s : List Char) : (sw.openClass s).1.Tidy := by
  unfold openClass
  split
  · exact ⟨nofun, nofun⟩
  · exact ⟨nofun, nofun⟩

/-- Reading on keeps every class that is still open tidy, and so the one that is closed in the
end. -/
theorem tidy_classFrom? {fuel : Nat} {outer : List OpenClass} (ho : o.Tidy)
    (houter : ∀ o' ∈ outer, o'.Tidy) (h : sw.classFrom? fuel o outer s = some (p, rest)) :
    p.among.Tidy := by
  induction fuel generalizing o outer s with
  | zero => cases h
  | succ fuel ih =>
    rw [classFrom?] at h
    split at h
    · cases h
    -- a hyphen at the beginning, and a bracket there
    split at h
    · obtain ⟨rs, hrs, h⟩ := Option.bind_eq_some_iff.mp h
      have hadd := ho.add (p := ⟨rs, 0⟩) (eq_of_admit? hrs ▸ Ranges.tidy_only _)
      exact ih (o := { o.add ⟨rs, 0⟩ with begins := true }) ⟨hadd.items, hadd.left⟩ houter h
    split at h
    · obtain ⟨rs, hrs, h⟩ := Option.bind_eq_some_iff.mp h
      exact ih (ho.add (eq_of_admit? hrs ▸ Ranges.tidy_only _)) houter h
    -- a class within
    split at h
    · split at h
      · rename_i hnamed
        obtain ⟨rs, hrs, h⟩ := Option.bind_eq_some_iff.mp h
        obtain ⟨rs', hsettle, h⟩ := Option.bind_eq_some_iff.mp h
        refine ih (ho.add (tidy_settle? ?_ hsettle)) houter h
        exact eq_of_admit? hrs ▸ tidy_named? hnamed
      · refine ih (tidy_openClass sw _) (List.forall_mem_cons.mpr ⟨?_, houter⟩) h
        exact ⟨ho.items, ho.left⟩
    -- the end
    split at h
    · obtain ⟨p', hp', h⟩ := Option.bind_eq_some_iff.mp h
      have hclosed := ho.closed? hp'
      split at h
      · obtain ⟨rfl, -⟩ := Prod.mk.inj (Option.some.inj h)
        exact hclosed
      · rw [List.forall_mem_cons] at houter
        exact ih (houter.1.add hclosed) houter.2 h
    -- an operator, and a part
    split at h
    · exact ih (ho.operate _) houter h
    · obtain ⟨⟨rs, s'⟩, hrs, h⟩ := Option.bind_eq_some_iff.mp h
      exact ih (ho.add (tidy_range? hrs)) houter h

/-- **A class that is read is tidy**, whatever stands between its brackets. -/
theorem tidy_readClass? (h : sw.readClass? s = some (p, rest)) : p.among.Tidy :=
  tidy_classFrom? (tidy_openClass sw s) (List.forall_mem_nil _) h

end Switches

end TrafficRouting.Text
