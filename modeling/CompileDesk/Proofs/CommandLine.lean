import CompileDesk.Command.Line

/-!
# An option in front of a command line

An option with a value can be put in front of the words of a command line that does not have it. No word
is read differently on account of it: options are taken over one after the other, and each looks only
for an earlier one of its own name. So the command line asks for the same, with that option added.
-/

namespace CompileDesk

namespace Grammar

variable {key value : String} {g : Grammar}

namespace Level

/-- The level with an option that was taken over before all others. -/
def given (key value : String) (l : Level) : Level := { l with options := (key, value) :: l.options }

@[simp] theorem given_operands (key value : String) (l : Level) :
    (l.given key value).operands = l.operands := rfl

@[simp] theorem given_onlyOperands (key value : String) (l : Level) :
    (l.given key value).onlyOperands = l.onlyOperands := rfl

@[simp] theorem given_awaits (key value : String) (l : Level) : (l.given key value).awaits = l.awaits := rfl

theorem lookup_given_of_ne {name : String} (different : name ≠ key) (l : Level) :
    (l.given key value).options.lookup name = l.options.lookup name := by
  have noMatch : (name == key) = false := beq_false_of_ne different
  rw [given, List.lookup_cons, noMatch]

theorem isSome_lookup_given {name : String} {l : Level} (there : (l.options.lookup name).isSome = true) :
    ((l.given key value).options.lookup name).isSome = true := by
  rw [given, List.lookup_cons]
  split
  · rfl
  · exact there

/-- No option of a name was taken over. -/
def Lacks (key : String) (l : Level) : Prop := l.options.lookup key = none

/-- A step from a level, without and with an option in front: if it does not take over that option itself, the
option makes no other difference. -/
def Alike (key value : String) (l : Level) (plain more : Except Halt Level) : Prop :=
  ∀ r, plain = .ok r → r.Lacks key → l.Lacks key ∧ more = .ok (r.given key value)

theorem Alike.bind {l : Level} {plain more : Except Halt Level} {f : Level → Except Halt Level}
    (h : Alike key value l plain more) (h' : ∀ m, Alike key value m (f m) (f (m.given key value))) :
    Alike key value l (plain.bind f) (more.bind f) := by
  intro r done lacks
  cases first : plain with
  | error e =>
    rw [first] at done
    cases done
  | ok m =>
    rw [first] at done
    obtain ⟨lacks', second⟩ := h' m r done lacks
    obtain ⟨lacks'', rfl⟩ := h m first lacks'
    exact ⟨lacks'', second⟩

theorem Alike.map {l : Level} {plain more : Except Halt Level} {f : Level → Level}
    (h : Alike key value l plain more) (options : ∀ m, (f m).options = m.options)
    (commutes : ∀ m, f (m.given key value) = (f m).given key value) :
    Alike key value l (plain.map f) (more.map f) := by
  intro r done lacks
  cases first : plain with
  | error e =>
    rw [first] at done
    cases done
  | ok m =>
    rw [first] at done
    cases done
    rw [Lacks, options] at lacks
    obtain ⟨lacks', rfl⟩ := h m first lacks
    exact ⟨lacks', congrArg Except.ok (commutes m)⟩

theorem Alike.error (l : Level) (halt : Halt) (more : Except Halt Level) :
    Alike key value l (.error halt) more := nofun

section Steps

variable (key value) (l : Level)

theorem store_alike (o : CommandOption) (v : String) :
    Alike key value l (l.store o v) ((l.given key value).store o v) := by
  intro r done lacks
  unfold store at done
  split at done
  · cases done
  · rename_i fresh
    split at done
    · cases done
    · rename_i filled
      cases done
      rw [Lacks, List.lookup_append, Option.or_eq_none_iff] at lacks
      obtain ⟨lacks, notOwn⟩ := lacks
      have different : o.long ≠ key := by
        rintro rfl
        simp at notOwn
      have fresh' : ¬ ((l.given key value).options.lookup o.long).isSome = true := by
        rwa [lookup_given_of_ne different]
      refine ⟨lacks, ?_⟩
      rw [store, if_neg fresh', if_neg filled]
      rfl

theorem settled_alike : Alike key value l l.settled (l.given key value).settled := by
  obtain ⟨options, operands, pending, onlyOperands⟩ := l
  cases pending with
  | nothing =>
    intro r done lacks
    cases done
    exact ⟨lacks, rfl⟩
  | option o v =>
    cases v with
    | none => exact .error _ _ _
    | some v => exact store_alike key value _ o v
  | operand o v =>
    intro r done lacks
    unfold settled at done
    dsimp only at done
    split at done
    · cases done
    · rename_i filled
      cases done
      refine ⟨lacks, ?_⟩
      simp only [given, settled, if_neg filled]

theorem takeSwitch_alike (o : CommandOption) :
    Alike key value l (l.takeSwitch o) ((l.given key value).takeSwitch o) := by
  refine (settled_alike key value l).bind fun m => ?_
  split
  · exact .error _ _ _
  · split
    · exact .error _ _ _
    · exact store_alike key value m o ""

theorem long_alike (g : Grammar) (word : List Char) :
    Alike key value l (long g l word) (long g (l.given key value) word) := by
  unfold long
  cases Text.splitOnce ['='] word with
  | none =>
    dsimp only
    cases g.long? (String.ofList word) with
    | none => exact .error _ _ _
    | some o =>
      dsimp only
      cases o.value with
      | none => exact takeSwitch_alike key value l o
      | some shown => exact (settled_alike key value l).map (fun _ => rfl) fun _ => rfl
  | some parts =>
    obtain ⟨name, attached⟩ := parts
    dsimp only
    cases g.long? (String.ofList name) with
    | none => exact .error _ _ _
    | some o =>
      dsimp only
      cases o.value with
      | none => exact .error _ _ _
      | some shown =>
        exact (settled_alike key value l).bind fun m => store_alike key value m o (String.ofList attached)

theorem short_alike (g : Grammar) (letters : List Char) :
    Alike key value l (short g l letters) (short g (l.given key value) letters) := by
  induction letters generalizing l with
  | nil =>
    intro r done lacks
    cases done
    exact ⟨lacks, rfl⟩
  | cons c letters ih =>
    unfold short
    cases g.short? c with
    | none => exact .error _ _ _
    | some o => exact (takeSwitch_alike key value l o).bind ih

theorem operand_alike (g : Grammar) (word : String) :
    Alike key value l (l.operand g word) ((l.given key value).operand g word) := by
  unfold operand
  rw [given_operands, given_onlyOperands]
  cases g.operands[l.operands.length]? with
  | some o => exact (settled_alike key value l).map (fun _ => rfl) fun _ => rfl
  | none =>
    dsimp only
    split
    · exact .error _ _ _
    · exact .error _ _ _

theorem word_alike (g : Grammar) (w : String) :
    Alike key value l (l.word g w) ((l.given key value).word g w) := by
  obtain ⟨options, operands, pending, onlyOperands⟩ := l
  unfold word
  cases onlyOperands with
  | true => exact operand_alike key value _ g w
  | false =>
    simp only [given, Bool.false_eq_true, if_false]
    split
    · intro r done lacks
      cases done
      exact ⟨lacks, rfl⟩
    · exact long_alike key value _ g _
    · exact short_alike key value _ g _
    · split
      · intro r done lacks
        cases done
        exact ⟨lacks, rfl⟩
      · exact operand_alike key value _ g w

end Steps

/-- Nothing that a command needs is missing, and of the options that go together there are all or none. -/
structure IsComplete (g : Grammar) (l : Level) : Prop where
  operands : g.operands.length ≤ l.operands.length
  needed : ∀ name ∈ g.needed, (l.options.lookup name).isSome = true
  joined : (∃ name ∈ g.joined, (l.options.lookup name).isSome = true) →
    ∀ name ∈ g.joined, (l.options.lookup name).isSome = true

theorem finished_eq_ok_iff {l : Level} {p : Parsed} : l.finished g = .ok p ↔
    ∃ m, l.settled = .ok m ∧ m.IsComplete g ∧ p = ⟨[], m.options, m.operands⟩ := by
  have complete_iff (m : Level) : m.IsComplete g ↔
      ¬ (decide (m.operands.length < g.operands.length) ||
        !g.needed.all (fun name => (m.options.lookup name).isSome) ||
        (g.joined.any (fun name => (m.options.lookup name).isSome) &&
          !g.joined.all (fun name => (m.options.lookup name).isSome))) = true := by
    simp only [Bool.or_eq_true, not_or, decide_eq_true_eq, Nat.not_lt, Bool.not_eq_true', Bool.and_eq_true,
      not_and, Bool.not_eq_false, List.all_eq_true, List.any_eq_true]
    exact ⟨fun ⟨operands, needed, joined⟩ => ⟨⟨operands, needed⟩, joined⟩,
      fun ⟨⟨operands, needed⟩, joined⟩ => ⟨operands, needed, joined⟩⟩
  unfold finished
  cases l.settled with
  | error e => exact iff_of_false nofun nofun
  | ok m =>
    simp only [Except.bind]
    split
    · rename_i missing
      refine iff_of_false nofun ?_
      rintro ⟨m', same, complete, -⟩
      cases same
      exact (complete_iff m).mp complete missing
    · rename_i complete
      constructor
      · intro read
        cases read
        exact ⟨m, rfl, (complete_iff m).mpr complete, rfl⟩
      · rintro ⟨m', same, -, rfl⟩
        cases same
        rfl

/-- An option that goes with no others completes nothing and leaves nothing incomplete. -/
theorem IsComplete.given {l : Level} (h : l.IsComplete g) (notJoined : key ∉ g.joined) (value : String) :
    (l.given key value).IsComplete g where
  operands := h.operands
  needed name there := isSome_lookup_given (h.needed name there)
  joined := by
    have same {name : String} (joined : name ∈ g.joined) :
        (l.given key value).options.lookup name = l.options.lookup name := by
      refine lookup_given_of_ne ?_ l
      rintro rfl
      exact notJoined joined
    rintro ⟨name, there, found⟩ name' there'
    rw [same there] at found
    rw [same there']
    exact h.joined ⟨name, there, found⟩ name' there'

theorem finished_given (notJoined : key ∉ g.joined) {l : Level} {p : Parsed} (read : l.finished g = .ok p)
    (lacks : p.options.lookup key = none) :
    l.Lacks key ∧
      (l.given key value).finished g = .ok { p with options := (key, value) :: p.options } := by
  obtain ⟨m, last, complete, rfl⟩ := finished_eq_ok_iff.mp read
  obtain ⟨lacks', more⟩ := settled_alike key value l m last lacks
  exact ⟨lacks', finished_eq_ok_iff.mpr ⟨_, more, complete.given notJoined value, rfl⟩⟩

end Level

theorem helpOn_ne_ok (g : Grammar) (words : List String) (p : Parsed) : g.helpOn words ≠ .ok p := by
  induction words generalizing g with
  | nil => nofun
  | cons w words ih =>
    unfold helpOn
    split
    · exact ih _
    · nofun

/-- An option that a command line does not have makes no difference in front of it, but that it is there. -/
theorem read_given (value : String) (notJoined : key ∉ g.joined) {l : Level} {words : List String} {p : Parsed}
    (read : g.read l words = .ok p) (lacks : p.options.lookup key = none) :
    l.Lacks key ∧
      g.read (l.given key value) words = .ok { p with options := (key, value) :: p.options } := by
  induction words generalizing l with
  | nil => exact Level.finished_given notJoined read lacks
  | cons w words ih =>
    unfold Grammar.read at read ⊢
    rw [Level.given_onlyOperands, Level.given_awaits]
    dsimp only at read ⊢
    generalize (if l.onlyOperands || l.awaits then none else g.command? w) = inner at read ⊢
    cases inner with
    | some command =>
      dsimp only at read ⊢
      cases below : command.read {} words with
      | error e =>
        rw [below] at read
        cases read
      | ok parsed =>
        rw [below] at read
        simp only [Except.bind] at read ⊢
        cases above : l.finished g with
        | error e =>
          rw [above] at read
          cases read
        | ok outer =>
          rw [above] at read
          cases read
          rw [List.lookup_append, Option.or_eq_none_iff] at lacks
          obtain ⟨lacks', more⟩ := Level.finished_given notJoined above lacks.1
          exact ⟨lacks', by rw [more]; rfl⟩
    | none =>
      dsimp only at read ⊢
      split at read
      · exact absurd read (helpOn_ne_ok g words p)
      · rename_i noHelp
        rw [if_neg noHelp]
        cases next : l.word g w with
        | error e =>
          rw [next] at read
          cases read
        | ok m =>
          rw [next] at read
          obtain ⟨lacks', rest⟩ := ih read
          obtain ⟨lacks'', more⟩ := Level.word_alike key value l g w m next lacks'
          refine ⟨lacks'', ?_⟩
          rw [more]
          exact rest

end Grammar

theorem Parsed.option?_cons_of_ne {key name : String} (different : name ≠ key) (p : Parsed) (value : String) :
    ({ p with options := (key, value) :: p.options } : Parsed).option? name = p.option? name := by
  simp [option?, List.lookup_append, different]

namespace Invocation

theorem read_server_front (u : String) (words : List String) :
    grammar.read {} (("--server=" ++ u) :: words) =
      grammar.read (Grammar.Level.given "server" u {}) words := by
  have letters : ("--server=" ++ u).toList = '-' :: '-' :: ("server=".toList ++ u.toList) := by
    rw [String.toList_append]
    rfl
  have noCommand : grammar.command? ("--server=" ++ u) = none := by
    have named : ∀ c ∈ grammar.commands, c.1.toList.head? ≠ some '-' := by decide
    rw [Grammar.command?, List.lookup_eq_none_iff]
    rintro ⟨name, command⟩ there
    rw [bne_iff_ne]
    rintro rfl
    refine named _ there ?_
    rw [letters]
    rfl
  have noHelp : (("--server=" ++ u) == Grammar.helpWord) = false := by
    rw [beq_eq_false_iff_ne]
    intro same
    have front := congrArg (fun s : String => s.toList.head?) same
    simp only [letters] at front
    have dash : some '-' = some 'h' := front
    exact absurd dash (by decide)
  have parts : Text.splitOnce ['='] ("server=".toList ++ u.toList) = some ("server".toList, u.toList) := by
    rfl
  have taken : ({} : Grammar.Level).word grammar ("--server=" ++ u) =
      .ok (Grammar.Level.given "server" u {}) := by
    have attached : ({} : Grammar.Level).word grammar ("--server=" ++ u) =
        ({} : Grammar.Level).store { long := "server", value := some "URL" } u := by
      unfold Grammar.Level.word
      rw [letters]
      change Grammar.Level.long grammar {} ("server=".toList ++ u.toList) = _
      unfold Grammar.Level.long
      rw [parts]
      simp only [String.ofList_toList]
      rfl
    rw [attached]
    unfold Grammar.Level.store
    simp only [Bool.not_true, Bool.and_false]
    rfl
  rw [Grammar.read]
  simp only [noCommand, ite_self, Grammar.knows, noHelp]
  rw [taken]
  rfl

/-- The address of the service can be given in front of a command line that does not give it, and
all else that is asked for stays. -/
theorem ofWords_server {words : List String} {i : Invocation} (read : ofWords words = .ok i)
    (noServer : i.server = none) (u : String) :
    ofWords (("--server=" ++ u) :: words) = .ok { i with server := some u } := by
  unfold ofWords at read ⊢
  cases parsed : grammar.read {} words with
  | error e =>
    rw [parsed] at read
    cases read
  | ok p =>
    rw [parsed] at read
    cases read
    have absent : p.options.reverse.lookup "server" = none := noServer
    have lacks : p.options.lookup "server" = none := by
      rw [List.lookup_eq_none_iff] at absent ⊢
      exact fun o there => absent o (List.mem_reverse.mpr there)
    have notJoined : "server" ∉ grammar.joined := by decide
    obtain ⟨-, more⟩ := Grammar.read_given u notJoined parsed lacks
    rw [read_server_front, more]
    have front : ({ p with options := ("server", u) :: p.options } : Parsed).option? "server" = some u := by
      simp [Parsed.option?, List.lookup_append, absent]
    have others (name : String) (different : name ≠ "server") := Parsed.option?_cons_of_ne different p u
    simp only [Except.map, taskOf, Parsed.has, front, others "verbose" (by decide),
      others "username" (by decide), others "password" (by decide), others "source" (by decide),
      others "skip-login" (by decide)]

end Invocation
end CompileDesk
