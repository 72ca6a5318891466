import CatalogNames.Command.Outcome
import CatalogNames.Proofs.Fields

/-! Every command can be spelled out in words that are read as that command, whatever its texts hold. A text
that stands alone is put behind two minus signs, and a value is put into the word of its option behind an
equals sign, so that none of them is looked at as an option. The words of the options may come in any order,
since each sets the value of its own option and no other. -/

namespace CatalogNames.Command

/-- The filters of a pattern, each with an option of its own. -/
inductive Filter where
  | catalog
  | database
  | table
  deriving DecidableEq

namespace Filter

def all : List Filter := [.catalog, .database, .table]

def name : Filter → Text
  | .catalog => "source".toList
  | .database => "database".toList
  | .table => "table".toList

def letter : Filter → Char
  | .catalog => 's'
  | .database => 'd'
  | .table => 't'

/-- The word gives the value to the filter, by its long or by its short name. -/
inductive Assigns (filter : Filter) (value : Text) : Text → Prop where
  | long : Assigns filter value ("--".toList ++ filter.name ++ '=' :: value)
  | short : Assigns filter value ('-' :: filter.letter :: '=' :: value)

theorem Assigns.ne_mark {filter : Filter} {value word : Text} (assigns : filter.Assigns value word) :
    word ≠ ['-', '-'] := by
  have mark : "--".toList.length = 2 := rfl
  intro same
  cases assigns with
  | long =>
      have lengths := congrArg List.length same
      simp only [List.length_append, List.length_cons, List.length_nil] at lengths
      omega
  | short => simp at same

/-- The filters that are given, with their values. -/
def given (value? : Filter → Option Text) : List (Filter × Text) :=
  all.filterMap fun filter => (value? filter).map fun value => (filter, value)

/-- What is set for the filters under the long names of their options. -/
def values (assigned : List (Filter × Text)) : Fields Text :=
  assigned.map fun pair => (pair.1.name, pair.2)

theorem mem_all (filter : Filter) : filter ∈ all := by
  cases filter <;> decide

theorem name_injective : Function.Injective name := by
  intro first second
  cases first <;> cases second <;> decide

theorem values_given (value? : Filter → Option Text) : values (given value?) =
    all.filterMap fun filter => (value? filter).map fun value => (filter.name, value) := by
  simp only [values, given, List.map_filterMap, Option.map_map, Function.comp_def]

theorem nodup_values_given (value? : Filter → Option Text) :
    ((values (given value?)).map Prod.fst).Nodup := by
  rw [values_given]
  exact Fields.nodup_filterMap name name_injective value? all (by decide)

/-- A value is found under the name of its filter, wherever its word stands. -/
theorem get?_values (value? : Filter → Option Text) (assigned : List (Filter × Text))
    (order : assigned.Perm (given value?)) (filter : Filter) :
    (values assigned).get? filter.name = value? filter := by
  have found := Fields.get?_filterMap name name_injective value? all filter
  rw [if_pos filter.mem_all, ← values_given] at found
  have same : (values assigned).Perm (values (given value?)) := order.map _
  rw [Fields.get?_perm same (nodup_values_given value?), found]

end Filter

/-- The words spell the command out. -/
inductive Spells : Command → List Text → Prop where
  | parse (name : Text) (preferView : Bool) :
      Spells (.parse name preferView) ("parse".toList ::
        ((if preferView then ["--prefer-view".toList] else []) ++ ["--".toList, name]))
  | fromJson (text : Text) : Spells (.fromJson text) ["from-json".toList, "--".toList, text]
  | wildcard (value? : Filter → Option Text) (assigned : List (Filter × Text)) (words : List Text)
      (order : assigned.Perm (Filter.given value?))
      (spelled : List.Forall₂ (fun pair word => pair.1.Assigns pair.2 word) assigned words) :
      Spells (.wildcard (value? .catalog) (value? .database) (value? .table))
        ("wildcard".toList :: words)
  | select (pattern first : Text) (names : List Text) :
      Spells (.select pattern (first :: names))
        ("match".toList :: "--".toList :: pattern :: first :: names)

namespace Given

theorem settle_of_settled (given : Given) (settled : given.waiting = none) :
    given.settle = .ok given := by
  rw [settle, settled]

theorem takePlain_of_room (usage : Usage) (given : Given) (word : Text)
    (room : ∀ most, usage.maxWords = some most → given.words.length < most) :
    given.takePlain usage word = .ok { given with words := given.words ++ [word] } := by
  rw [takePlain, if_neg]
  simp only [Option.any_eq_true, decide_eq_true_eq, not_exists, not_and, Nat.not_le]
  exact room

/-- Behind two minus signs every word is kept as it is. -/
theorem foldlM_takePlain (usage : Usage) (given : Given) (words : List Text)
    (room : ∀ most, usage.maxWords = some most → given.words.length + words.length ≤ most) :
    words.foldlM (takePlain usage) given = .ok { given with words := given.words ++ words } := by
  induction words generalizing given with
  | nil => simp [pure, Except.pure]
  | cons word words ih =>
      simp only [List.length_cons] at room
      have first := takePlain_of_room usage given word fun most bounded => by
        have := room most bounded
        omega
      have rest := ih { given with words := given.words ++ [word] } fun most bounded => by
        have := room most bounded
        simp only [List.length_append, List.length_singleton]
        omega
      rw [List.foldlM_cons, first]
      refine Eq.trans rest ?_
      rw [List.append_assoc, List.singleton_append]

theorem takeAll_plain (usage : Usage) (given : Given) (words : List Text)
    (settled : given.waiting = none)
    (room : ∀ most, usage.maxWords = some most → given.words.length + words.length ≤ most) :
    given.takeAll usage ("--".toList :: words) = .ok { given with words := given.words ++ words } := by
  have kept := foldlM_takePlain usage given words room
  have marked : "--".toList = ['-', '-'] := rfl
  rw [takeAll, if_pos marked, kept]
  exact settle_of_settled _ settled

theorem setValue_of_fresh (given : Given) (option value : Text)
    (fresh : option ∉ given.values.map Prod.fst) :
    given.setValue option value = .ok { given with values := given.values ++ [(option, value)] } := by
  have absent : given.values.lookup option = none := Fields.get?_of_not_mem given.values option fresh
  rw [setValue, absent]
  rfl

/-- A word that gives a value to a filter sets this value and does nothing else. -/
theorem take_assigns (given : Given) (filter : Filter) (value word : Text)
    (settled : given.waiting = none) (assigns : filter.Assigns value word) :
    given.take Kind.wildcard.usage word = given.setValue filter.name value := by
  obtain ⟨flags, values, waiting, words⟩ := given
  cases settled
  cases assigns with
  | long => cases filter <;> rfl
  | short => cases filter <;> rfl

/-- Words that each give a value to a filter of its own set all these values. -/
theorem takeAll_assigns (assigned : List (Filter × Text)) (words : List Text)
    (spelled : List.Forall₂ (fun pair word => pair.1.Assigns pair.2 word) assigned words)
    (given : Given) (settled : given.waiting = none)
    (separate : ((given.values ++ Filter.values assigned).map Prod.fst).Nodup) :
    given.takeAll Kind.wildcard.usage words =
      .ok { given with values := given.values ++ Filter.values assigned } := by
  induction spelled generalizing given with
  | nil =>
      rw [takeAll, settle_of_settled given settled]
      simp [Filter.values]
  | @cons pair word assigned words assigns spelled ih =>
      obtain ⟨filter, value⟩ := pair
      have split : given.values ++ Filter.values ((filter, value) :: assigned) =
          given.values ++ [(filter.name, value)] ++ Filter.values assigned := by
        simp [Filter.values]
      rw [split] at separate
      have fresh : filter.name ∉ given.values.map Prod.fst := by
        intro listed
        rw [List.map_append, List.map_append] at separate
        exact (List.nodup_append.mp (List.nodup_append.mp separate).1).2.2 _ listed _ (by simp) rfl
      have first := take_assigns given filter value word settled assigns
      rw [setValue_of_fresh given filter.name value fresh] at first
      have rest := ih { given with values := given.values ++ [(filter.name, value)] } settled separate
      rw [takeAll, if_neg assigns.ne_mark, first, split]
      exact rest

end Given

/-- The words after that of the command are taken one after the other. -/
theorem read_kind (kind : Kind) (words : List Text) : read (kind.word :: words) = (do
    kind.command (← Given.nothing.takeAll kind.usage words)) := by
  cases kind <;> rfl

theorem read_plain (kind : Kind) (words : List Text)
    (room : ∀ most, kind.usage.maxWords = some most → words.length ≤ most) :
    read (kind.word :: "--".toList :: words) = kind.command { Given.nothing with words } := by
  have kept := Given.takeAll_plain kind.usage .nothing words rfl (by simpa [Given.nothing] using room)
  rw [read_kind, kept]
  rfl

theorem read_flagged (name : Text) :
    read ["parse".toList, "--prefer-view".toList, "--".toList, name] = .ok (.parse name true) := by
  have kept := Given.takeAll_plain Kind.parse.usage { Given.nothing with flags := [preferViewFlag] }
    [name] rfl (by simp [Kind.usage, Given.nothing])
  have flagged : Given.nothing.takeAll Kind.parse.usage ["--prefer-view".toList, "--".toList, name] =
      Given.takeAll Kind.parse.usage { Given.nothing with flags := [preferViewFlag] }
        ["--".toList, name] := rfl
  change read (Kind.parse.word :: _) = _
  rw [read_kind, flagged, kept]
  rfl

theorem read_filters (value? : Filter → Option Text) (assigned : List (Filter × Text))
    (words : List Text) (order : assigned.Perm (Filter.given value?))
    (spelled : List.Forall₂ (fun pair word => pair.1.Assigns pair.2 word) assigned words) :
    read ("wildcard".toList :: words) =
      .ok (.wildcard (value? .catalog) (value? .database) (value? .table)) := by
  have found := Filter.get?_values value? assigned order
  have separate : ((Filter.values assigned).map Prod.fst).Nodup :=
    ((order.map _).map Prod.fst).nodup_iff.mpr (Filter.nodup_values_given value?)
  have kept := Given.takeAll_assigns assigned words spelled .nothing rfl separate
  change read (Kind.wildcard.word :: _) = _
  rw [read_kind, kept, ← found .catalog, ← found .database, ← found .table]
  rfl

theorem read_spelled {command : Command} {words : List Text} (spells : Spells command words) :
    read words = .ok command := by
  cases spells with
  | parse name preferView =>
      cases preferView with
      | false => exact read_plain .parse [name] (by simp [Kind.usage])
      | true => exact read_flagged name
  | fromJson text => exact read_plain .fromJson [text] (by simp [Kind.usage])
  | wildcard value? assigned words order spelled =>
      exact read_filters value? assigned words order spelled
  | select pattern first names =>
      exact read_plain .select (pattern :: first :: names) (by simp [Kind.usage])

/-- The filters with these values. -/
def Filter.choose (catalog database table : Option Text) : Filter → Option Text
  | .catalog => catalog
  | .database => database
  | .table => table

theorem exists_spells (command : Command) (named : ∀ pattern, command ≠ .select pattern []) :
    ∃ words, Spells command words := by
  cases command with
  | parse name preferView => exact ⟨_, .parse name preferView⟩
  | fromJson text => exact ⟨_, .fromJson text⟩
  | wildcard catalog database table =>
      let value? := Filter.choose catalog database table
      refine ⟨_, .wildcard value? (Filter.given value?) ((Filter.given value?).map fun pair =>
        "--".toList ++ pair.1.name ++ '=' :: pair.2) (.refl _) ?_⟩
      rw [List.forall₂_map_right_iff, List.forall₂_same]
      intro pair listed
      exact .long
  | select pattern names =>
      cases names with
      | nil => exact absurd rfl (named pattern)
      | cons first names => exact ⟨_, .select pattern first names⟩

/-- Words that spell a command out are read as this command, and there are such words for every command that
does not match no names at all. So the outcome depends on the command alone: on the values of the filters, and
not on the order of their words or on the names that these use. -/
theorem spelled_commands_are_read :
    (∀ command words, Spells command words → read words = .ok command) ∧
      (∀ command : Command, (∀ pattern, command ≠ .select pattern []) →
        ∃ words, Spells command words) ∧
      ∀ command words others, Spells command words → Spells command others →
        Outcome.ofWords words = Outcome.ofWords others := by
  refine ⟨fun _ _ => read_spelled, exists_spells, ?_⟩
  intro command words others spells also
  rw [Outcome.ofWords, Outcome.ofWords, read_spelled spells, read_spelled also]

/-- The filters in another order than that of the levels; one is empty, and one looks like an option. -/
theorem spelled_commands_are_read_at_filters :
    let words := ["wildcard".toList, "--table=--help".toList, "-s=".toList]
    Spells (.wildcard (some []) none (some "--help".toList)) words ∧
      read words = .ok (.wildcard (some []) none (some "--help".toList)) :=
  have spells := Spells.wildcard (Filter.choose (some []) none (some "--help".toList))
    [(.table, "--help".toList), (.catalog, [])] ["--table=--help".toList, "-s=".toList]
    (.swap _ _ []) (.cons .long (.cons .short .nil))
  ⟨spells, spelled_commands_are_read.1 _ _ spells⟩

end CatalogNames.Command
