import PoolFeed.Chain
import PoolFeed.Message.Topics

/-!
# Subjects tell chains and channels apart

A subject is a namespace, a chain and a channel with dots between them. Neither a chain nor a
channel has a dot in it, so both are read off the end of a subject; what stands in front of them is
the namespace.

## Main statements

* `Topics.subject_inj` — a subject belongs to one chain and one channel
* `Topics.token_inj` — so it does under any namespaces
* `Topics.below_of_subject` — a subject below those of a chain, but under another namespace
-/

namespace PoolFeed

/-! ## Subjects under one namespace -/

/-- **A subject belongs to one chain and one channel.** -/
theorem Topics.subject_inj {t : Topics} {chain chain' : String} {channel channel' : Channel}
    (h : t.subject chain channel = t.subject chain' channel') :
    chain = chain' ∧ channel = channel' := by
  have hchannel : channel = channel' := by
    have hof := t.channelOf?_subject chain channel
    rw [h, t.channelOf?_subject] at hof
    exact (Option.some.inj hof).symm
  subst hchannel
  refine ⟨?_, rfl⟩
  have hlist := congrArg String.toList h
  simp only [subject, String.toList_append, List.append_assoc, List.append_cancel_left_eq] at hlist
  rw [← List.append_assoc, ← List.append_assoc] at hlist
  exact String.toList_inj.mp (List.append_cancel_right (List.append_cancel_right hlist))

/-! ## Subjects under different namespaces -/

theorem ChainName.dot_notMem {name : String} (h : ChainName.check name = .ok ()) :
    '.' ∉ name.toList := by
  intro hdot
  have hlegal := (ChainName.check_eq_ok_iff.mp h).2 '.' hdot
  cases hlegal

theorem Channel.name_inj {c d : Channel} (h : c.name = d.name) : c = d := by
  have hof := Channel.ofName?_name c
  rw [h, Channel.ofName?_name] at hof
  exact (Option.some.inj hof).symm

namespace Topics

variable {t t' : Topics} {chain chain' : String} {channel channel' : Channel}

/-- A subject, cut in front of its channel and its chain. -/
theorem toList_subject (t : Topics) (chain : String) (channel : Channel) :
    (t.subject chain channel).toList
      = (t.root.toList ++ '.' :: chain.toList) ++ '.' :: channel.name.toList := by
  simp [subject, String.toList_append]

/--
**Under any namespaces, a subject belongs to one chain and one channel**, if no chain has a dot in
it.
-/
theorem token_inj (hchain : '.' ∉ chain.toList) (hchain' : '.' ∉ chain'.toList)
    (h : t.subject chain channel = t'.subject chain' channel') :
    chain = chain' ∧ channel = channel' := by
  have hlist := congrArg String.toList h
  rw [toList_subject, toList_subject] at hlist
  have hlast := congrArg lastToken? hlist
  rw [lastToken?_append channel.dot_notMem_name, lastToken?_append channel'.dot_notMem_name]
    at hlast
  have hchannel : channel = channel' :=
    Channel.name_inj (String.toList_inj.mp (Option.some.inj hlast))
  subst hchannel
  have hfront := congrArg lastToken? (List.append_cancel_right hlist)
  rw [lastToken?_append hchain, lastToken?_append hchain'] at hfront
  exact ⟨String.toList_inj.mp (Option.some.inj hfront), rfl⟩

/-- Subjects that are the same for a chain and a channel have the same namespace. -/
theorem eq_of_subject_eq (h : t.subject chain channel = t'.subject chain channel) : t = t' := by
  have hlist := congrArg String.toList h
  rw [toList_subject, toList_subject] at hlist
  have hroot := List.append_cancel_right (List.append_cancel_right hlist)
  cases t
  cases t'
  cases String.toList_inj.mp hroot
  rfl

/-! ## Namespaces below a chain -/

/-- Whether a namespace is the front of a chain's subjects under another one, or goes on from it. -/
def Below (t outer : Topics) (chain : String) : Prop :=
  t.root = outer.root ++ "." ++ chain ∨ ∃ rest, t.root = outer.root ++ "." ++ chain ++ "." ++ rest

/-- A dot stands at the last dot of a text or in front of it. -/
theorem dot_cases {front last front' rest : List Char} (hlast : '.' ∉ last)
    (h : front ++ '.' :: last = front' ++ '.' :: rest) :
    (front = front' ∧ last = rest)
      ∨ ∃ between, rest = between ++ '.' :: last ∧ front = front' ++ '.' :: between := by
  rcases List.append_eq_append_iff.mp h with ⟨as, hfront, htail⟩ | ⟨bs, hfront, htail⟩
  · cases as with
    | nil => exact Or.inl ⟨by rw [hfront, List.append_nil], (List.cons.inj htail).2⟩
    | cons a as =>
      refine absurd ?_ hlast
      rw [(List.cons.inj htail).2]
      exact List.mem_append_right _ List.mem_cons_self
  · cases bs with
    | nil => exact Or.inl ⟨by rw [hfront, List.append_nil], (List.cons.inj htail).2.symm⟩
    | cons b bs =>
      obtain ⟨rfl, hrest⟩ := List.cons.inj htail
      exact Or.inr ⟨bs, hrest, hfront⟩

/--
**A subject below those of a chain belongs to their namespace, or to one below the chain.** What
stands behind the dot is the channel, or the rest of a longer namespace comes first.
-/
theorem below_of_subject {outer : Topics} {front : String} {rest : List Char}
    (hfront : '.' ∉ front.toList) (hchain : '.' ∉ chain.toList)
    (h : (t.subject chain channel).toList
      = (outer.root.toList ++ '.' :: front.toList) ++ '.' :: rest) :
    (t = outer ∧ chain = front) ∨ t.Below outer front := by
  have hjoin : ∀ s s' : String, (s ++ "." ++ s').toList = s.toList ++ '.' :: s'.toList := by
    intro s s'
    simp [String.toList_append]
  rw [toList_subject] at h
  rcases dot_cases channel.dot_notMem_name h with ⟨hroot, -⟩ | ⟨between, -, hroot⟩
  · rcases dot_cases hchain hroot with ⟨hroot, hchain⟩ | ⟨_, hbetween, -⟩
    · refine Or.inl ⟨?_, String.toList_inj.mp hchain⟩
      cases t
      cases outer
      cases String.toList_inj.mp hroot
      rfl
    · refine absurd ?_ hfront
      rw [hbetween]
      exact List.mem_append_right _ List.mem_cons_self
  · refine Or.inr ?_
    rcases dot_cases hchain hroot with ⟨hroot, -⟩ | ⟨rest, -, hroot⟩
    · refine Or.inl (String.toList_inj.mp ?_)
      rw [hroot, hjoin]
    · refine Or.inr ⟨String.ofList rest, String.toList_inj.mp ?_⟩
      rw [hroot, hjoin, hjoin, String.toList_ofList]

/-- The subjects of a namespace below a chain go on from the subjects of the chain. -/
theorem subject_of_below {outer : Topics} {front : String} (h : t.Below outer front)
    (chain : String) (channel : Channel) : ∃ rest, rest ≠ ""
      ∧ t.subject chain channel = outer.root ++ "." ++ front ++ "." ++ rest := by
  have hne : ∀ s : String, s ++ "." ++ channel.name ≠ "" := by
    intro s he
    have hlist := congrArg String.toList he
    simp at hlist
  rcases h with hroot | ⟨between, hroot⟩
  · refine ⟨chain ++ "." ++ channel.name, hne _, ?_⟩
    simp only [subject, hroot, String.append_assoc]
  · refine ⟨between ++ "." ++ chain ++ "." ++ channel.name, hne _, ?_⟩
    simp only [subject, hroot, String.append_assoc]

/-- The channel is read back off them under the other namespace too. -/
theorem channelOf?_of_below {outer : Topics} {front : String} (h : t.Below outer front)
    (chain : String) (channel : Channel) :
    outer.channelOf? (t.subject chain channel) = some channel := by
  obtain ⟨more, hroot⟩ : ∃ more, t.root.toList = outer.root.toList ++ '.' :: more := by
    rcases h with hroot | ⟨rest, hroot⟩
    · exact ⟨front.toList, by simp [hroot, String.toList_append]⟩
    · exact ⟨front.toList ++ '.' :: rest.toList, by simp [hroot, String.toList_append]⟩
  have hlist : (t.subject chain channel).toList
      = (outer.root.toList ++ ['.']) ++ ((more ++ '.' :: chain.toList) ++ '.' :: channel.name.toList)
      := by
    rw [toList_subject, hroot]
    simp
  have hdrop : dropPrefix? (outer.root.toList ++ ['.']) (t.subject chain channel).toList
      = some ((more ++ '.' :: chain.toList) ++ '.' :: channel.name.toList) := by
    rw [hlist, dropPrefix?, if_pos (List.isPrefixOf_iff_prefix.mpr (List.prefix_append _ _)),
      List.drop_left]
  have htoken : lastToken? ((more ++ '.' :: chain.toList) ++ '.' :: channel.name.toList)
      = some channel.name.toList := lastToken?_append channel.dot_notMem_name
  simp only [channelOf?, hdrop, Option.bind_eq_bind, Option.bind_some, htoken,
    String.ofList_toList, Channel.ofName?_name]

end Topics

end PoolFeed
