/-
The host in an authority, as an address and as a request URI have it.

Both readers pass over what stands in front of the last `@`.  Behind it an address takes the host to
end at the first colon outside brackets, and then reads it; a request URI is content with a bracket
of either kind anywhere, and takes the host to end at the first closing bracket if it begins with an
opening one, and otherwise at the first colon.  These ends differ for texts such as `a[b:c]`, but an
address has no such host: its brackets hold all of it or there are none.  So where both readers
accept an authority, they find the same host (`ofText?_host`).
-/
import FrontDoor.Proofs.Http.UriReader
import FrontDoor.Proofs.Url.Host
import FrontDoor.Url.Basic

namespace FrontDoor

variable {s t : List Char} {c : Char}

/-! ### The check of an authority -/

namespace Http.Uri

theorem finish_cons_eq_ok {st : AuthorityScan} (h : st.finish (c :: s) = .ok ()) :
    ∃ st', st.step c = .ok st' ∧ st'.finish s = .ok () := by
  rw [AuthorityScan.finish] at h
  cases hstep : st.step c with
  | error e =>
      rw [hstep] at h
      cases h
  | ok st' =>
      rw [hstep] at h
      exact ⟨st', rfl, h⟩

/-- No step lets a backslash through. -/
theorem backslash_not_mem {st : AuthorityScan} (h : st.finish s = .ok ()) : '\\' ∉ s := by
  induction s generalizing st with
  | nil => simp
  | cons c s ih =>
      obtain ⟨st', hstep, h⟩ := finish_cons_eq_ok h
      refine List.not_mem_cons_of_ne_of_not_mem ?_ (ih h)
      rintro rfl
      cases hstep

theorem closed_of_step {st st' : AuthorityScan} (h : st.step c = .ok st')
    (hclosed : c = ']' ∨ st.closed = true) : st'.closed = true := by
  unfold AuthorityScan.step at h
  split_ifs at h <;> cases h <;> simp_all

/-- Once a bracket was closed no other is. -/
theorem closeBracket_not_mem_of_closed {st : AuthorityScan} (h : st.finish s = .ok ())
    (hclosed : st.closed = true) : ']' ∉ s := by
  induction s generalizing st with
  | nil => simp
  | cons c s ih =>
      obtain ⟨st', hstep, h⟩ := finish_cons_eq_ok h
      refine List.not_mem_cons_of_ne_of_not_mem ?_ (ih h (closed_of_step hstep (.inr hclosed)))
      rintro rfl
      simp [AuthorityScan.step, hclosed] at hstep

theorem closeBracket_not_mem {st : AuthorityScan} (h : st.finish (s ++ ']' :: t) = .ok ()) :
    ']' ∉ t := by
  induction s generalizing st with
  | nil =>
      obtain ⟨st', hstep, h⟩ := finish_cons_eq_ok h
      exact closeBracket_not_mem_of_closed h (closed_of_step hstep (.inl rfl))
  | cons c s ih =>
      obtain ⟨st', -, h⟩ := finish_cons_eq_ok h
      exact ih h

end Http.Uri

/-! ### The host of a request URI -/

namespace Http.Authority

variable {authority : String} {inner rest : List Char}

/-- What stands behind the last `@` ends the authority. -/
theorem exists_front (s : List Char) : ∃ front, s = front ++ afterLast '@' s := by
  rcases Text.behind_last '@' s with ⟨-, hwhole⟩ | ⟨front, hfront⟩
  · exact ⟨[], hwhole.symm⟩
  · exact ⟨front ++ ['@'], by rw [List.append_assoc]; exact hfront⟩

theorem host_of_brackets
    (h : afterLast '@' authority.toList = '[' :: (inner ++ ']' :: rest)) (hinner : ']' ∉ inner) :
    (host authority).toList = '[' :: (inner ++ [']']) := by
  have hrun : (inner ++ ']' :: rest).takeWhile (· != ']') = inner :=
    Text.takeWhile_append_of_all (fun c hc => bne_iff_ne.mpr (ne_of_mem_of_not_mem hc hinner))
      (Text.stops_cons (bne_self_eq_false _))
  simp only [host, h]
  rw [hrun, String.toList_ofList, List.cons_append]

theorem host_of_not_mem
    (h : '[' ∉ (afterLast '@' authority.toList).takeWhile (· != ':')) :
    (host authority).toList = (afterLast '@' authority.toList).takeWhile (· != ':') := by
  unfold host
  split
  · rename_i rest hbracket
    rw [hbracket] at h
    simp at h
  · exact String.toList_ofList

end Http.Authority

/-! ### The host of an address -/

namespace Url

theorem splitUser_snd (s : List Char) : (splitUser s).2 = Http.Authority.afterLast '@' s := by
  unfold splitUser Http.Authority.afterLast
  split
  · rfl
  · rename_i hnone
    rcases Text.behind_last '@' s with ⟨-, hwhole⟩ | ⟨front, hfront⟩
    · exact hwhole.symm
    · refine absurd ?_ hnone
      rw [hfront]
      simp

theorem splitHost_append (inside : Bool) (s : List Char) :
    (splitHost inside s).1 ++ (splitHost inside s).2 = s := by
  induction s generalizing inside with
  | nil => rfl
  | cons c s ih =>
      rw [splitHost]
      split
      · rfl
      · exact congrArg (c :: ·) (ih _)

/-- Without brackets the host ends at the first colon. -/
theorem splitHost_of_not_mem (h : '[' ∉ (splitHost false s).1) :
    (splitHost false s).1 = s.takeWhile (· != ':') := by
  induction s with
  | nil => rfl
  | cons c s ih =>
      rw [splitHost] at h ⊢
      by_cases hc : c = ':'
      · subst hc
        rfl
      · have hcolon : (decide (c = ':') && !false) = false := by simp [hc]
        rw [hcolon, if_neg Bool.false_ne_true] at h ⊢
        dsimp only at h ⊢
        obtain ⟨hne, hrest⟩ := not_or.mp (mt List.mem_cons.mpr h)
        have houtside : (decide (c = '[') || (false && c != ']')) = false := by
          simp [Ne.symm hne]
        rw [houtside] at hrest ⊢
        rw [ih hrest, List.takeWhile_cons_of_pos (by simpa using hc)]

/-- The host is read from what stands behind the user information. -/
theorem ofText?_of_authority? {final : Bool} {host : Host} {port? : Option Nat}
    (h : authority? .hosted final s = some (host, port?)) :
    Host.ofText? (splitHost false (Http.Authority.afterLast '@' s)).1 = some host := by
  rw [← splitUser_snd]
  unfold authority? at h
  dsimp only at h
  split at h
  · cases h
  split at h
  · cases h
  obtain ⟨found, hfound, h⟩ := Option.bind_eq_some_iff.mp h
  obtain ⟨port, -, h⟩ := Option.bind_eq_some_iff.mp h
  cases h
  exact hfound

/-- **Where both readers accept an authority, they find the same host in it.** -/
theorem ofText?_host {authority : String} {final : Bool} {host : Host} {port? : Option Nat}
    (hcheck : Http.Uri.checkAuthority authority.toList = .ok ())
    (h : authority? .hosted final authority.toList = some (host, port?)) :
    Host.ofText? (Http.Authority.host authority).toList = some host := by
  have hread := ofText?_of_authority? h
  obtain ⟨front, hfront⟩ := Http.Authority.exists_front authority.toList
  rcases Host.brackets_of_ofText? hread with hnone | ⟨inner, hbrackets⟩
  · rw [splitHost_of_not_mem hnone] at hread hnone
    rw [Http.Authority.host_of_not_mem hnone]
    exact hread
  · have hwhole := splitHost_append false (Http.Authority.afterLast '@' authority.toList)
    rw [hbrackets, List.cons_append, List.append_assoc, List.singleton_append] at hwhole
    have hinner : ']' ∉ inner := by
      intro hc
      -- The bracket at the end of the host would be the second one that is closed.
      obtain ⟨a, b, rfl⟩ := List.append_of_mem hc
      have hfinish : ({} : Http.Uri.AuthorityScan).finish ((front ++ '[' :: a) ++ ']' :: (b ++
          ']' :: (splitHost false (Http.Authority.afterLast '@' authority.toList)).2)) =
            .ok () := by
        rw [hfront, ← hwhole] at hcheck
        simpa [Http.Uri.checkAuthority] using hcheck
      exact Http.Uri.closeBracket_not_mem hfinish (by simp)
    rw [Http.Authority.host_of_brackets hwhole.symm hinner, ← hbrackets]
    exact hread

end Url

end FrontDoor
