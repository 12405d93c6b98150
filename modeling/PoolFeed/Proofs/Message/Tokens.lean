import Mathlib.Data.List.Basic
import PoolFeed.Proofs.Message.Topics
import PoolFeed.Settings.Basic

/-!
# Legal subjects

A subject is legal if every token in it, that is what stands between its dots, has a character and
none that is a wildcard or white space. Chains and channels are single tokens of that kind, so a
subject is as legal as its namespace. Of a namespace it is checked that it has no dot at an end, no
wildcard and no space; two dots in a row and white space of another kind are not noticed.

## Main statements

* `Subject.isLegal_join` — a subject is legal if both sides of a dot are
* `Subject.forall_tail_ne_nil_iff` — where the empty tokens of a subject are
* `Settings.isLegal_root_iff` — which of the accepted namespaces are legal
* `Settings.subjects_legal_iff` — when the subjects of accepted settings are legal
-/

namespace PoolFeed

namespace Subject

variable {s s' : String} {cs : List Char}

/-- What stands between the dots of a subject. -/
def tokens (s : String) : List (List Char) := s.toList.splitOn '.'

/-- Whether a character may stand in a token. -/
def IsPlain (c : Char) : Prop := c ≠ '*' ∧ c ≠ '>' ∧ Text.isBlank c = false

instance (c : Char) : Decidable (IsPlain c) := inferInstanceAs (Decidable (_ ∧ _))

/-- Whether every token has a character, and none that may not stand there. -/
def IsLegal (s : String) : Prop := ∀ t ∈ tokens s, t ≠ [] ∧ ∀ c ∈ t, IsPlain c

instance (s : String) : Decidable (IsLegal s) :=
  decidable_of_iff ((tokens s).all fun t => !t.isEmpty && t.all fun c => decide (IsPlain c))
    (by simp [IsLegal, List.all_eq_true, List.isEmpty_eq_false_iff])

/-! ## Tokens -/

theorem tokens_join (s s' : String) : tokens (s ++ "." ++ s') = tokens s ++ tokens s' := by
  have hlist : (s ++ "." ++ s').toList = s.toList ++ '.' :: s'.toList := by
    simp [String.toList_append]
  rw [tokens, hlist, List.splitOn_append_cons_self]
  rfl

/-- **A subject is legal if both sides of a dot are.** -/
theorem isLegal_join : IsLegal (s ++ "." ++ s') ↔ IsLegal s ∧ IsLegal s' := by
  rw [IsLegal, tokens_join, List.forall_mem_append]
  rfl

/-- The characters of the tokens are those of the subject, and a dot may stand anywhere. -/
theorem forall_token_isPlain_iff :
    (∀ t ∈ cs.splitOn '.', ∀ c ∈ t, IsPlain c) ↔ ∀ c ∈ cs, IsPlain c := by
  induction cs with
  | nil => simp
  | cons d cs ih =>
    obtain ⟨t, ts, hsplit⟩ := List.exists_cons_of_ne_nil (List.splitOn_ne_nil '.' cs)
    rw [hsplit, List.forall_mem_cons] at ih
    rw [List.splitOn_cons_eq_if_modifyHead, hsplit, List.forall_mem_cons (p := IsPlain), ← ih]
    by_cases hd : d = '.'
    · have hdot : IsPlain '.' := by decide
      rw [if_pos (beq_iff_eq.mpr hd), List.forall_mem_cons, List.forall_mem_cons, hd,
        iff_true_intro hdot, true_and]
      exact and_iff_right nofun
    · rw [if_neg (by simp [hd]), List.modifyHead_cons, List.forall_mem_cons, List.forall_mem_cons,
        and_assoc]

/--
**Where the empty tokens of a subject are.** Behind the first dot there is one exactly if a dot
stands at the end, or two dots stand side by side.
-/
theorem forall_tail_ne_nil_iff : (∀ t ∈ (cs.splitOn '.').tail, t ≠ [])
    ↔ cs.getLast? ≠ some '.' ∧ ¬ ['.', '.'] <:+: cs := by
  induction cs with
  | nil => simp
  | cons c cs ih =>
    rw [List.splitOn_cons_eq_if_modifyHead, List.infix_cons_iff]
    by_cases hc : c = '.'
    · -- The token behind this dot is empty if the text ends here or goes on with a dot.
      subst hc
      rw [if_pos (beq_self_eq_true _), List.tail_cons]
      cases cs with
      | nil => simp
      | cons d cs =>
        rw [List.splitOn_cons_eq_if_modifyHead] at ih ⊢
        obtain ⟨t, ts, hsplit⟩ := List.exists_cons_of_ne_nil (List.splitOn_ne_nil '.' cs)
        by_cases hd : d = '.'
        · simp [hd]
        · have hd' : ¬ (d == '.') = true := by simp [hd]
          rw [if_neg hd', hsplit] at ih ⊢
          rw [List.modifyHead_cons, List.tail_cons] at ih
          rw [List.modifyHead_cons, List.forall_mem_cons, ih, List.getLast?_cons_cons]
          simp [Ne.symm hd]
    · rw [if_neg (by simp [hc]), List.tail_modifyHead, ih]
      cases cs with
      | nil => simp [hc]
      | cons d cs => simp [List.getLast?_cons_cons, Ne.symm hc]

/-- A text without dots is its only token. -/
theorem isLegal_of_dot_notMem (h : '.' ∉ s.toList) (hne : s.toList ≠ [])
    (hplain : ∀ c ∈ s.toList, IsPlain c) : IsLegal s := by
  rw [IsLegal, tokens, List.splitOn_eq_singleton h]
  intro t ht
  rw [List.mem_singleton.mp ht]
  exact ⟨hne, hplain⟩

theorem isPlain_name (channel : Channel) : ∀ c ∈ channel.name.toList, IsPlain c := by
  have hall : channel.name.toList.all (fun c => decide (IsPlain c)) = true := by
    cases channel <;> decide
  exact fun c hc => of_decide_eq_true (List.all_eq_true.mp hall c hc)

theorem isLegal_name (channel : Channel) : IsLegal channel.name := by
  cases channel <;> decide

theorem IsPlain.not_wild {c : Char} (h : IsPlain c) : c ≠ '*' ∧ c ≠ '>' ∧ c ≠ ' ' := by
  refine ⟨h.1, h.2.1, ?_⟩
  rintro rfl
  exact absurd h.2.2 (by decide)

end Subject

namespace ChainName

variable {name : String}

theorem isPlain_of_check (h : check name = .ok ()) : ∀ c ∈ name.toList, Subject.IsPlain c := by
  intro c hc
  have hlegal := (check_eq_ok_iff.mp h).2 c hc
  simp only [isIllegal, Bool.or_eq_false_iff, decide_eq_false_iff_not] at hlegal
  exact ⟨hlegal.1.1.2, hlegal.1.2, hlegal.2⟩

/-- A chain that is accepted is a legal token. -/
theorem isLegal_of_check (h : check name = .ok ()) : Subject.IsLegal name :=
  Subject.isLegal_of_dot_notMem (dot_notMem h) (check_eq_ok_iff.mp h).1 (isPlain_of_check h)

end ChainName

namespace Topics

variable {t : Topics} {chain : String}

/-- Whether no two dots stand side by side in a namespace, and no white space at all. -/
def IsTidy (t : Topics) : Prop :=
  ¬ ['.', '.'] <:+: t.root.toList ∧ ∀ c ∈ t.root.toList, Text.isBlank c = false

/-- **A subject is as legal as its namespace.** -/
theorem isLegal_subject_iff (h : ChainName.check chain = .ok ()) (channel : Channel) :
    Subject.IsLegal (t.subject chain channel) ↔ Subject.IsLegal t.root := by
  rw [subject, Subject.isLegal_join, Subject.isLegal_join]
  exact ⟨fun hsubject => hsubject.1.1,
    fun hroot => ⟨⟨hroot, ChainName.isLegal_of_check h⟩, Subject.isLegal_name channel⟩⟩

/-- So is the subject in front of a pattern's end. -/
theorem exists_isLegal_wildcard_iff (h : ChainName.check chain = .ok ()) :
    (∃ front, Subject.IsLegal front ∧ t.wildcard chain = front ++ ".>")
      ↔ Subject.IsLegal t.root := by
  constructor
  · rintro ⟨front, hfront, hwildcard⟩
    have hlist := congrArg String.toList hwildcard
    rw [wildcard, String.toList_append, String.toList_append (s := front)] at hlist
    have heq := String.toList_inj.mp (List.append_cancel_right hlist)
    rw [← heq, Subject.isLegal_join] at hfront
    exact hfront.1
  · intro hroot
    exact ⟨t.root ++ "." ++ chain,
      Subject.isLegal_join.mpr ⟨hroot, ChainName.isLegal_of_check h⟩, rfl⟩

end Topics

namespace Settings

variable {s : Settings}

theorem isNamespace_of_check (h : s.check = .ok ()) : isNamespace s.topics.root.toList = true := by
  rw [topics_root]
  unfold check at h
  split at h
  · cases h
  · split at h
    · cases h
    · split at h
      · cases h
      · next hnot => simpa using hnot

/-- No wildcard and no space stands in a namespace that is accepted. -/
theorem not_wild_of_check (h : s.check = .ok ()) :
    ∀ c ∈ s.topics.root.toList, c ≠ '*' ∧ c ≠ '>' ∧ c ≠ ' ' := by
  have hnamespace := isNamespace_of_check h
  simp only [isNamespace, Bool.and_eq_true, decide_eq_true_eq, List.all_eq_true] at hnamespace
  intro c hc
  obtain ⟨⟨hstar, hmore⟩, hspace⟩ := hnamespace.2 c hc
  exact ⟨hstar, hmore, hspace⟩

/-- **The accepted namespaces that are legal** are those that are tidy. -/
theorem isLegal_root_iff (h : s.check = .ok ()) :
    Subject.IsLegal s.topics.root ↔ s.topics.IsTidy := by
  have hnamespace := isNamespace_of_check h
  simp only [isNamespace, Bool.and_eq_true, decide_eq_true_eq, List.all_eq_true] at hnamespace
  obtain ⟨⟨⟨hempty, hhead⟩, hlast⟩, -⟩ := hnamespace
  have hcharacters : (∀ t ∈ s.topics.root.toList.splitOn '.', ∀ c ∈ t, Subject.IsPlain c)
      ↔ ∀ c ∈ s.topics.root.toList, Text.isBlank c = false := by
    rw [Subject.forall_token_isPlain_iff]
    refine forall₂_congr fun c hc => ⟨fun hplain => hplain.2.2, fun hblank => ?_⟩
    obtain ⟨hstar, hmore, -⟩ := not_wild_of_check h c hc
    exact ⟨hstar, hmore, hblank⟩
  have hnonempty : (∀ t ∈ s.topics.root.toList.splitOn '.', t ≠ [])
      ↔ ¬ ['.', '.'] <:+: s.topics.root.toList := by
    cases hroot : s.topics.root.toList with
    | nil => simp [hroot] at hempty
    | cons c cs =>
      rw [hroot] at hhead hlast
      have htail := @Subject.forall_tail_ne_nil_iff (c :: cs)
      rw [and_iff_right hlast] at htail
      obtain ⟨t, ts, hsplit⟩ := List.exists_cons_of_ne_nil (List.splitOn_ne_nil '.' cs)
      have hc : ¬ (c == '.') = true := by simpa using hhead
      rw [List.splitOn_cons_eq_if_modifyHead, if_neg hc, hsplit, List.modifyHead_cons] at htail ⊢
      rw [List.forall_mem_cons, ← htail, List.tail_cons]
      exact and_iff_right nofun
  rw [Topics.IsTidy, ← hcharacters, ← hnonempty]
  exact forall₂_and

/--
**When the subjects of accepted settings are legal.** No wildcard and no space ever stands in one.
The subjects of a chain that is accepted, and the front of its pattern, are legal exactly if no two
dots stand side by side in the namespace and no white space at all.
-/
theorem subjects_legal_iff (hs : s.check = .ok ()) {chain : String}
    (hchain : ChainName.check chain = .ok ()) :
    (∀ channel, ∀ c ∈ (s.topics.subject chain channel).toList, c ≠ '*' ∧ c ≠ '>' ∧ c ≠ ' ')
      ∧ (∀ channel, Subject.IsLegal (s.topics.subject chain channel) ↔ s.topics.IsTidy)
      ∧ ((∃ front, Subject.IsLegal front ∧ s.topics.wildcard chain = front ++ ".>")
        ↔ s.topics.IsTidy) := by
  refine ⟨fun channel c hc => ?_, fun channel => ?_, ?_⟩
  · have hdot : '.' ≠ '*' ∧ '.' ≠ '>' ∧ '.' ≠ ' ' := by decide
    rw [Topics.toList_subject] at hc
    simp only [List.mem_append, List.mem_cons] at hc
    rcases hc with (hroot | rfl | hname) | rfl | hname
    · exact not_wild_of_check hs c hroot
    · exact hdot
    · exact (ChainName.isPlain_of_check hchain c hname).not_wild
    · exact hdot
    · exact (Subject.isPlain_name channel c hname).not_wild
  · rw [Topics.isLegal_subject_iff hchain, isLegal_root_iff hs]
  · rw [Topics.exists_isLegal_wildcard_iff hchain, isLegal_root_iff hs]

/-- The subjects and the pattern of a chain under the settings that hold by default. -/
theorem default_subjects_legal : default.check = .ok () ∧ ChainName.check "ethereum" = .ok ()
    ∧ Subject.IsLegal "whitelist.pools.ethereum.full"
    ∧ ∃ front, Subject.IsLegal front ∧ "whitelist.pools.ethereum.>" = front ++ ".>" := by
  have hsettings : default.check = .ok () := rfl
  have hchain : ChainName.check "ethereum" = .ok () := rfl
  have hroot : Subject.IsLegal default.topics.root := by decide
  have htidy : default.topics.IsTidy := (isLegal_root_iff hsettings).mp hroot
  obtain ⟨-, hsubject, hwildcard⟩ := subjects_legal_iff hsettings hchain
  exact ⟨hsettings, hchain, (hsubject .full).mpr htidy, hwildcard.mpr htidy⟩

/-! ### Accepted namespaces that are not tidy -/

namespace Untidy

/-- Settings with two dots in a row. -/
def gap : Settings := { default with namespaceText := "whitelist..pools" }

/-- Settings with a tab in a token. -/
def tab : Settings := { default with namespaceText := "whitelist.po\tols" }

/-- **Settings are accepted whose subjects are not legal.** -/
theorem illegal_subjects : ChainName.check "ethereum" = .ok ()
    ∧ gap.check = .ok () ∧ gap.topics.subject "ethereum" .full = "whitelist..pools.ethereum.full"
    ∧ ¬ Subject.IsLegal "whitelist..pools.ethereum.full"
    ∧ tab.check = .ok () ∧ tab.topics.subject "ethereum" .full = "whitelist.po\tols.ethereum.full"
    ∧ ¬ Subject.IsLegal "whitelist.po\tols.ethereum.full" :=
  ⟨rfl, rfl, by decide, by decide, rfl, by decide, by decide⟩

end Untidy

end Settings

end PoolFeed
