import Schemata.Proofs.Table.Invariant

/-!
# Blocked tables

Modifiers reach the last fragment only.  So a foreign key that is incomplete when another fragment
comes after it stays incomplete, and as long as it is there the table has no statement.  A
statement would be the only way to take the key away, apart from a reset.

* `Fragment.ContinuedBy` — what every call but a reset leaves of the fragments, told once for runs
  of any length;
* `Table.BlockedBy` — the first incomplete foreign key comes before the last fragment;
* `Table.blocked_until_reset` — such a table has no statement, whatever is called.
-/

namespace Schemata

namespace Fragment

/-- All fragments of `fs` but the last are in their places in `gs`, which is not shorter. -/
structure ContinuedBy (fs gs : List Fragment) : Prop where
  /-- The fragments before the last are where they were. -/
  front : fs.dropLast <+: gs
  /-- There are no fewer fragments. -/
  length_le : fs.length ≤ gs.length

namespace ContinuedBy

variable {fs gs hs : List Fragment}

theorem refl (fs : List Fragment) : ContinuedBy fs fs := ⟨List.dropLast_prefix fs, Nat.le_refl _⟩

theorem dropLast_prefix_dropLast (h : ContinuedBy fs gs) : fs.dropLast <+: gs.dropLast := by
  refine List.prefix_of_prefix_length_le h.front (List.dropLast_prefix gs) ?_
  have hlength := h.length_le
  simp only [List.length_dropLast]
  omega

theorem trans (h : ContinuedBy fs gs) (h' : ContinuedBy gs hs) : ContinuedBy fs hs :=
  ⟨h.dropLast_prefix_dropLast.trans h'.front, h.length_le.trans h'.length_le⟩

/-- A call that does not take the fragments away reaches the last at most. -/
theorem reshape {c : Call} (hc : c.clears = false) (fs : List Fragment) :
    ContinuedBy fs (c.reshape fs) := by
  rcases List.eq_nil_or_concat' fs with rfl | ⟨gs, g, rfl⟩
  · exact ⟨List.nil_prefix, Nat.zero_le _⟩
  · rw [Call.reshape_concat hc]
    refine ⟨?_, ?_⟩
    · rw [List.dropLast_concat]
      exact List.prefix_append gs _
    · simp only [List.length_append, List.length_cons, List.length_nil]
      omega

end ContinuedBy

end Fragment

namespace Table

/-- The key is the first incomplete one, and another fragment comes after it. -/
def BlockedBy (t : Table) (k : ForeignKey) : Prop :=
  Fragment.firstIncomplete? t.fragments.dropLast = some k

namespace BlockedBy

variable {t t' : Table} {k : ForeignKey} {c : Call} {cs : List Call} {sql : Option String}

theorem firstIncomplete?_eq_some (h : t.BlockedBy k) :
    Fragment.firstIncomplete? t.fragments = some k :=
  (List.dropLast_prefix t.fragments).findSome?_eq_some h

theorem of_continuedBy (h : t.BlockedBy k) (hc : Fragment.ContinuedBy t.fragments t'.fragments) :
    t'.BlockedBy k :=
  hc.dropLast_prefix_dropLast.findSome?_eq_some h

/-- A blocked table has no statement, with or without a name. -/
theorem reply_create (h : t.BlockedBy k) : (t.perform .create).reply =
    .error (if t.name = none then .missingTableName
      else .incompleteForeignKey k.column k.stage.expected) := by
  refine create_eq_error_iff_firstIncomplete?.2 ?_
  cases hn : t.name with
  | none => exact .inl ⟨rfl, rfl⟩
  | some name => exact .inr ⟨rfl, k, h.firstIncomplete?_eq_some, rfl⟩

/-- Of the calls that take fragments away, a blocked table accepts a reset only. -/
theorem clears_eq_false (h : t.BlockedBy k) (hc : c ≠ .reset)
    (hr : (t.perform c).reply = .ok sql) : c.clears = false := by
  cases c with
  | create => cases hr.symm.trans h.reply_create
  | reset => exact absurd rfl hc
  | _ => rfl

/-- What a blocked table holds is continued until it is reset. -/
theorem continuedBy_after (h : t.BlockedBy k) (hcs : .reset ∉ cs) :
    Fragment.ContinuedBy t.fragments (t.after cs).fragments := by
  refine after_induction (P := fun t' => Fragment.ContinuedBy t.fragments t'.fragments)
    (A := (· ≠ .reset)) (.refl _) ?_ fun c hc => ne_of_mem_of_not_mem hc hcs
  intro t' c sql hc hr ht'
  rw [table_of_reply_eq_ok hr]
  exact ht'.trans (.reshape ((h.of_continuedBy ht').clears_eq_false hc hr) _)

end BlockedBy

variable {t : Table} {k : ForeignKey} {cs : List Call}

/-- **Buried keys block.**  If a foreign key with a missing part is not the last fragment, then at
every point of a run without a reset the table refuses to give its statement, for want of a name
or for the key that was the first incomplete one from the start.  The fragments before the last
stay in their places, and there are never fewer of them. -/
theorem blocked_until_reset (hk : .foreignKey k ∈ t.fragments.dropLast)
    (hmissing : k.references = none ∨ k.table = none) (hcs : .reset ∉ cs) :
    ∃ first, Fragment.firstIncomplete? t.fragments = some first ∧
      ∀ before after, cs = before ++ after →
        ((t.after before).perform .create).reply =
          .error (if (t.after before).name = none then .missingTableName
            else .incompleteForeignKey first.column first.stage.expected) ∧
        t.fragments.dropLast <+: (t.after before).fragments ∧
        t.fragments.length ≤ (t.after before).fragments.length ∧
        (t.after before).fragments.length ≤ (t.after cs).fragments.length := by
  have hincomplete : k.stage ≠ .complete := by
    intro h
    obtain ⟨r, n, hr, hn⟩ := ForeignKey.stage_eq_complete_iff.1 h
    simp [hr, hn] at hmissing
  obtain ⟨first, hfirst⟩ : ∃ first, t.BlockedBy first := by
    refine Option.ne_none_iff_exists'.1 fun hnone => hincomplete ?_
    exact Fragment.firstIncomplete?_eq_none_iff.1 hnone _ hk
  refine ⟨first, hfirst.firstIncomplete?_eq_some, fun before after hsplit => ?_⟩
  subst hsplit
  rw [List.mem_append, not_or] at hcs
  have hbefore := hfirst.continuedBy_after hcs.1
  have hblocked := hfirst.of_continuedBy hbefore
  refine ⟨hblocked.reply_create, hbefore.front, hbefore.length_le, ?_⟩
  rw [after_append]
  exact (hblocked.continuedBy_after hcs.2).length_le

/-- A table in which a column came before the foreign key was complete. -/
def interrupted : Table where
  dialect := .generic
  name := some "posts"
  fragments := [.foreignKey { column := "user_id", references := some "id" },
    .column { name := "title", kind := .text }]

/-- The missing modifier comes too late, and another column in place of the last changes nothing. -/
theorem interrupted_blocked :
    ((interrupted.after [.on "users", .replaceLast (.column { name := "body", kind := .text }),
      .create]).perform .create).reply = .error (.incompleteForeignKey "user_id" .on) := by
  have hk : .foreignKey { column := "user_id", references := some "id" } ∈
      interrupted.fragments.dropLast := by decide
  have hcs : .reset ∉ ([.on "users", .replaceLast (.column { name := "body", kind := .text }),
      .create] : List Call) := by decide
  obtain ⟨first, hfirst, hall⟩ := blocked_until_reset hk (.inr rfl) hcs
  obtain rfl : { column := "user_id", references := some "id" } = first := by
    simpa [interrupted, Fragment.firstIncomplete?, Fragment.incomplete?, ForeignKey.stage]
      using hfirst
  exact (hall _ [] (List.append_nil _).symm).1

end Table

end Schemata
