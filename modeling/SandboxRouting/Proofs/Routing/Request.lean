import Mathlib.Data.List.Forall2
import SandboxRouting.Proofs.Pattern.Ending
import SandboxRouting.Proofs.Routing.Router
import SandboxRouting.Routing.Request

/-! # Runs of requests to a router

What a request makes of the list of rules is told by the request alone: it puts another list in the place of
the installed one (`base?`), it puts one rule behind it (`added?`), or it leaves it. So the installed list is
that of the last request of the first kind, and behind it the rules that came since (`rules_run_of_base`).
Registering rules one by one comes to the same as installing them together.

The rules are those that the drafts in the requests stand for: `Rule.Draft.Yields` says which they are, also for
a pattern that has to be compiled. -/

namespace SandboxRouting
namespace Routing

/-! ### Drafts -/

namespace Rule.Draft

/-- The draft stands for the rule: for the rule that is ready, or for the one that searches paths for a pattern,
    once that is compiled. -/
inductive Yields : Rule.Draft → Rule → Prop where
  | ready (rule : Rule) : Yields (.ready rule) rule
  | search {pattern : String} {p : Pattern} (chain : Chain) (h : Pattern.compile? pattern = some p) :
      Yields (.search pattern chain) ⟨.finds p, chain⟩

theorem build_eq_ok_iff {d : Rule.Draft} {rule : Rule} : d.build = .ok rule ↔ d.Yields rule := by
  constructor
  · intro h
    cases d with
    | ready other =>
      cases h
      exact .ready rule
    | search pattern chain =>
      cases hp : Pattern.compile? pattern with
      | none => simp [build, ofPattern, PathTest.ofPattern, hp] at h
      | some p =>
        obtain rfl : ⟨.finds p, chain⟩ = rule := by simpa [build, ofPattern, PathTest.ofPattern, hp] using h
        exact .search chain hp
  · rintro (_ | ⟨chain, hp⟩)
    · rfl
    · simp [build, ofPattern, PathTest.ofPattern, hp]

/-- Drafts that are built together stand for the rules one by one. -/
theorem mapM_build_eq_ok_iff {drafts : List Rule.Draft} {rules : List Rule} :
    drafts.mapM build = .ok rules ↔ List.Forall₂ Yields drafts rules := by
  induction drafts generalizing rules with
  | nil => cases rules <;> simp [pure, Except.pure]
  | cons d drafts ih =>
    rw [List.mapM_cons, List.forall₂_cons_left_iff]
    simp only [← build_eq_ok_iff, ← ih]
    cases d.build with
    | error failure => simp [bind, Except.bind]
    | ok rule =>
      cases drafts.mapM build with
      | error failure => simp [bind, Except.bind]
      | ok rest => simp [bind, Except.bind, pure, Except.pure, eq_comm]

/-- The pattern compiles, if there is one to be compiled. -/
def Compiles : Rule.Draft → Prop
  | ready _ => True
  | search pattern _ => Pattern.compile? pattern ≠ none

theorem build_cases (d : Rule.Draft) :
    (d.Compiles ∧ ∃ rule, d.build = .ok rule) ∨
      ∃ pattern chain, d = .search pattern chain ∧ Pattern.compile? pattern = none ∧
        d.build = .error (.invalidPattern pattern) := by
  cases d with
  | ready rule => exact Or.inl ⟨trivial, rule, rfl⟩
  | search pattern chain =>
    cases hp : Pattern.compile? pattern with
    | none => exact Or.inr ⟨pattern, chain, rfl, hp, by simp [build, ofPattern, PathTest.ofPattern, hp]⟩
    | some p => exact Or.inl ⟨by simp [Compiles, hp], by simp [build, ofPattern, PathTest.ofPattern, hp]⟩

/-- Drafts can be built together if each of them compiles; otherwise the first that does not is told. -/
theorem mapM_build_cases (drafts : List Rule.Draft) :
    ((∀ d ∈ drafts, d.Compiles) ∧ ∃ rules, drafts.mapM build = .ok rules) ∨
      ∃ before pattern chain after, drafts = before ++ .search pattern chain :: after ∧
        (∀ d ∈ before, d.Compiles) ∧ Pattern.compile? pattern = none ∧
        drafts.mapM build = .error (.invalidPattern pattern) := by
  induction drafts with
  | nil => exact Or.inl ⟨by simp, [], rfl⟩
  | cons d drafts ih =>
    rw [List.mapM_cons]
    rcases build_cases d with ⟨hd, rule, hrule⟩ | ⟨pattern, chain, rfl, hp, hfailed⟩
    · rcases ih with ⟨hall, rules, hrules⟩ | ⟨before, pattern, chain, after, rfl, hbefore, hp, hfailed⟩
      · exact Or.inl ⟨List.forall_mem_cons.mpr ⟨hd, hall⟩, rule :: rules, by rw [hrule, hrules]; rfl⟩
      · exact Or.inr ⟨d :: before, pattern, chain, after, rfl, List.forall_mem_cons.mpr ⟨hd, hbefore⟩, hp,
          by rw [hrule, hfailed]; rfl⟩
    · exact Or.inr ⟨[], pattern, chain, drafts, rfl, by simp, hp, by rw [hfailed]; rfl⟩

end Rule.Draft

/-! ### What requests make of the list -/

namespace Request

def isChange : Request → Bool
  | append _ => true
  | replace _ => true
  | clear => true
  | _ => false

/-- The rules that the request brings along. -/
def drafts : Request → List Rule.Draft
  | append draft => [draft]
  | replace drafts => drafts
  | _ => []

/-- The list that the request puts in the place of the installed one. -/
def base? : Request → Option (List Rule)
  | replace drafts => (drafts.mapM Rule.Draft.build).toOption
  | clear => some []
  | _ => none

/-- The rule that the request puts behind all others. -/
def added? : Request → Option Rule
  | append draft => draft.build.toOption
  | _ => none

@[simp] theorem base?_append (draft : Rule.Draft) : (append draft).base? = none := rfl

@[simp] theorem added?_replace (drafts : List Rule.Draft) : (replace drafts).added? = none := rfl

section
variable {draft : Rule.Draft} {drafts : List Rule.Draft} {failure : Failure}

theorem added?_of_build {rule : Rule} (h : draft.build = .ok rule) : (append draft).added? = some rule := by
  rw [added?, h]
  rfl

theorem added?_of_build_error (h : draft.build = .error failure) : (append draft).added? = none := by
  rw [added?, h]
  rfl

theorem base?_of_mapM_build {rules : List Rule} (h : drafts.mapM Rule.Draft.build = .ok rules) :
    (replace drafts).base? = some rules := by
  rw [base?, h]
  rfl

theorem base?_of_mapM_build_error (h : drafts.mapM Rule.Draft.build = .error failure) :
    (replace drafts).base? = none := by
  rw [base?, h]
  rfl

theorem added?_append_iff {rule : Rule} : (append draft).added? = some rule ↔ draft.Yields rule := by
  rw [← Rule.Draft.build_eq_ok_iff]
  cases hbuild : draft.build with
  | ok built => simp [added?_of_build hbuild]
  | error failure => simp [added?_of_build_error hbuild]

theorem base?_replace_iff {rules : List Rule} :
    (replace drafts).base? = some rules ↔ List.Forall₂ Rule.Draft.Yields drafts rules := by
  rw [← Rule.Draft.mapM_build_eq_ok_iff]
  cases hbuild : drafts.mapM Rule.Draft.build with
  | ok built => simp [base?_of_mapM_build hbuild]
  | error failure => simp [base?_of_mapM_build_error hbuild]

end

end Request

namespace Router

def next (r : Router) (request : Request) : Router := (r.respond request).router

def run (r : Router) (requests : List Request) : Router := requests.foldl next r

/-- The request is for a change, and the change was made. -/
def alters (r : Router) (request : Request) : Bool := request.isChange && (r.respond request).result.isOk

/-- How many requests of a run changed the list. -/
def alterations (r : Router) : List Request → Nat
  | [] => 0
  | request :: rest => (r.alters request).toNat + (r.next request).alterations rest

theorem run_cons (r : Router) (request : Request) (rest : List Request) :
    r.run (request :: rest) = (r.next request).run rest := rfl

theorem run_append (r : Router) (before after : List Request) : r.run (before ++ after) = (r.run before).run after :=
  List.foldl_append

/-! ### One request -/

section
variable {draft : Rule.Draft} {drafts : List Rule.Draft} {failure : Failure}

theorem respond_append {rule : Rule} (h : draft.build = .ok rule) (r : Router) :
    r.respond (.append draft) = ⟨.ok .done, r.install (r.rules ++ [rule])⟩ := by
  rw [respond, h]
  rfl

theorem respond_append_error (h : draft.build = .error failure) (r : Router) :
    r.respond (.append draft) = ⟨.error failure, r⟩ := by
  rw [respond, h]
  rfl

theorem respond_replace {rules : List Rule} (h : drafts.mapM Rule.Draft.build = .ok rules) (r : Router) :
    r.respond (.replace drafts) = ⟨.ok .done, r.install rules⟩ := by
  rw [respond, h]
  rfl

theorem respond_replace_error (h : drafts.mapM Rule.Draft.build = .error failure) (r : Router) :
    r.respond (.replace drafts) = ⟨.error failure, r⟩ := by
  rw [respond, h]
  rfl

end

/-- A request that alters the router installs a list of its own, or the installed one with a rule behind it. -/
theorem next_cases (r : Router) (request : Request) :
    (r.alters request = true ∧ ∃ rules, r.next request = r.install rules ∧
      (request.base? = some rules ∨
        request.base? = none ∧ ∃ rule, request.added? = some rule ∧ rules = r.rules ++ [rule])) ∨
    (r.alters request = false ∧ r.next request = r ∧ request.base? = none ∧ request.added? = none) := by
  cases request with
  | append draft =>
    cases hbuild : draft.build with
    | ok rule =>
      have hrespond := respond_append hbuild r
      exact Or.inl ⟨by rw [alters, hrespond]; rfl, _, by rw [next, hrespond],
        Or.inr ⟨rfl, rule, Request.added?_of_build hbuild, rfl⟩⟩
    | error failure =>
      have hrespond := respond_append_error hbuild r
      exact Or.inr ⟨by rw [alters, hrespond]; rfl, by rw [next, hrespond], rfl, Request.added?_of_build_error hbuild⟩
  | replace drafts =>
    cases hbuild : drafts.mapM Rule.Draft.build with
    | ok rules =>
      have hrespond := respond_replace hbuild r
      exact Or.inl ⟨by rw [alters, hrespond]; rfl, rules, by rw [next, hrespond],
        Or.inl (Request.base?_of_mapM_build hbuild)⟩
    | error failure =>
      have hrespond := respond_replace_error hbuild r
      exact Or.inr ⟨by rw [alters, hrespond]; rfl, by rw [next, hrespond],
        Request.base?_of_mapM_build_error hbuild, rfl⟩
  | clear => exact Or.inl ⟨rfl, [], rfl, Or.inl rfl⟩
  | _ => exact Or.inr ⟨rfl, rfl, rfl, rfl⟩

theorem next_of_not_alters {r : Router} {request : Request} (h : r.alters request = false) : r.next request = r := by
  rcases next_cases r request with ⟨halters, -⟩ | ⟨-, hnext, -⟩
  · rw [h] at halters
    cases halters
  · exact hnext

theorem name_next (r : Router) (request : Request) : (r.next request).name = r.name := by
  rcases next_cases r request with ⟨-, rules, hnext, -⟩ | ⟨-, hnext, -⟩ <;> rw [hnext]
  exact name_install r rules

theorem changes_next (r : Router) (request : Request) :
    (r.next request).changes = r.changes + (r.alters request).toNat := by
  rcases next_cases r request with ⟨halters, rules, hnext, -⟩ | ⟨halters, hnext, -⟩ <;> rw [hnext, halters]
  · exact changes_install r rules
  · rfl

theorem rules_next_of_base {r : Router} {request : Request} {base : List Rule} (h : request.base? = some base) :
    (r.next request).rules = base := by
  rcases next_cases r request with ⟨-, rules, hnext, hbase | ⟨hbase, -⟩⟩ | ⟨-, -, hbase, -⟩ <;> rw [h] at hbase <;>
    cases hbase
  rw [hnext, rules_install]

theorem rules_next {r : Router} {request : Request} (h : request.base? = none) :
    (r.next request).rules = r.rules ++ request.added?.toList := by
  rcases next_cases r request with ⟨-, rules, hnext, hbase | ⟨-, rule, hadded, rfl⟩⟩ | ⟨-, hnext, -, hadded⟩
  · rw [h] at hbase
    cases hbase
  · rw [hnext, hadded, rules_install]
    rfl
  · simp [hnext, hadded]

/-- A change is made if every pattern in it compiles; otherwise the first that does not is the answer. -/
theorem respond_change_cases (r : Router) {request : Request} (h : request.isChange = true) :
    ((∀ d ∈ request.drafts, d.Compiles) ∧ (r.respond request).result = .ok .done) ∨
      ∃ before pattern chain after, request.drafts = before ++ .search pattern chain :: after ∧
        (∀ d ∈ before, d.Compiles) ∧ Pattern.compile? pattern = none ∧
        (r.respond request).result = .error (.invalidPattern pattern) := by
  cases request with
  | append draft =>
    rcases Rule.Draft.build_cases draft with ⟨hd, rule, hrule⟩ | ⟨pattern, chain, rfl, hp, hfailed⟩
    · exact Or.inl ⟨by simpa [Request.drafts] using hd, by rw [respond_append hrule]⟩
    · exact Or.inr ⟨[], pattern, chain, [], rfl, by simp, hp, by rw [respond_append_error hfailed]⟩
  | replace drafts =>
    rcases Rule.Draft.mapM_build_cases drafts with
      ⟨hall, rules, hrules⟩ | ⟨before, pattern, chain, after, hsplit, hbefore, hp, hfailed⟩
    · exact Or.inl ⟨hall, by rw [respond_replace hrules]⟩
    · exact Or.inr ⟨before, pattern, chain, after, hsplit, hbefore, hp, by rw [respond_replace_error hfailed]⟩
  | clear => exact Or.inl ⟨by simp [Request.drafts], rfl⟩
  | _ => cases h

/-! ### Runs -/

theorem name_run (r : Router) (requests : List Request) : (r.run requests).name = r.name := by
  induction requests generalizing r with
  | nil => rfl
  | cons request rest ih => rw [run_cons, ih, name_next]

theorem changes_run (r : Router) (requests : List Request) :
    (r.run requests).changes = r.changes + r.alterations requests := by
  induction requests generalizing r with
  | nil => rfl
  | cons request rest ih => rw [run_cons, ih, changes_next, alterations, Nat.add_assoc]

/-- As long as no list is put in the place of the installed one, rules only come behind it. -/
theorem rules_run (r : Router) {requests : List Request} (h : ∀ request ∈ requests, request.base? = none) :
    (r.run requests).rules = r.rules ++ requests.filterMap Request.added? := by
  induction requests generalizing r with
  | nil => simp [run]
  | cons request rest ih =>
    obtain ⟨hrequest, hrest⟩ := List.forall_mem_cons.mp h
    rw [run_cons, ih _ hrest, rules_next hrequest, List.append_assoc]
    cases hadded : request.added? with
    | none => rw [List.filterMap_cons_none hadded]; rfl
    | some rule => rw [List.filterMap_cons_some hadded]; rfl

theorem rules_run_of_base (r : Router) {before after : List Request} {request : Request} {base : List Rule}
    (hbase : request.base? = some base) (hafter : ∀ request ∈ after, request.base? = none) :
    (r.run (before ++ request :: after)).rules = base ++ after.filterMap Request.added? := by
  rw [run_append, run_cons, rules_run _ hafter, rules_next_of_base hbase]

/-- Rules that come together are those that come one by one. -/
theorem filterMap_added? {drafts : List Rule.Draft} {rules : List Rule}
    (h : List.Forall₂ Rule.Draft.Yields drafts rules) :
    (drafts.map Request.append).filterMap Request.added? = rules := by
  induction h with
  | nil => rfl
  | cons hd _ ih => rw [List.map_cons, List.filterMap_cons_some (Request.added?_append_iff.mpr hd), ih]

theorem rules_run_one_by_one (r : Router) {drafts : List Rule.Draft} {rules : List Rule}
    (h : List.Forall₂ Rule.Draft.Yields drafts rules) (requests : List Request) :
    (r.run (requests ++ .clear :: drafts.map .append)).rules = rules ∧
      (r.run (requests ++ [.replace drafts])).rules = rules := by
  constructor
  · have hafter : ∀ request ∈ drafts.map Request.append, request.base? = none := by simp
    rw [rules_run_of_base _ rfl hafter, filterMap_added? h, List.nil_append]
  · have hafter : ∀ request ∈ ([] : List Request), request.base? = none := List.forall_mem_nil _
    rw [rules_run_of_base _ (Request.base?_replace_iff.mpr h) hafter, List.filterMap_nil, List.append_nil]

/-! ### Lookups -/

theorem lookUp_eq_ok_iff {r : Router} {path : String} {chain : Chain} :
    (r.respond (.lookUp path)).result = .ok (.chain chain) ↔
      ∃ rule, firstRule? r.rules path = some rule ∧ rule.chain = chain := by
  rw [respond, chainFor]
  cases firstRule? r.rules path <;> simp [Except.map]

theorem lookUp_eq_error_iff {r : Router} {path : String} :
    (r.respond (.lookUp path)).result = .error (.unrouted r.name path) ↔ firstRule? r.rules path = none := by
  rw [respond, chainFor]
  cases firstRule? r.rules path <;> simp [Except.map]

theorem lookUp_congr {r s : Router} (hrules : r.rules = s.rules) (hname : r.name = s.name) (path : String) :
    (r.respond (.lookUp path)).result = (s.respond (.lookUp path)).result := by
  simp only [respond, chainFor, hrules, hname]

/-! ### The law of requests -/

/-- What a run of requests makes of a router, and what it answers then. -/
structure RequestLaw (name : String) (start : Router) (requests : List Request) : Prop where
  /-- A request adds the rule that its draft stands for. If that has to search for a pattern which compiles, it is
      the rule of the compiled pattern. -/
  added : ∀ draft rule, (Request.append draft).added? = some rule ↔ draft.Yields rule
  /-- A list that comes in the place of another holds the rules that its drafts stand for, one by one. -/
  based : ∀ drafts base, (Request.replace drafts).base? = some base ↔ List.Forall₂ Rule.Draft.Yields drafts base
  /-- Behind the last request that put a list in the place of another, the rules come in the order of calls. -/
  since : ∀ before request base after, requests = before ++ request :: after → request.base? = some base →
    (∀ later ∈ after, later.base? = none) →
    (start.run requests).rules = base ++ after.filterMap Request.added?
  /-- Without such a request the list holds nothing else. -/
  opening : (∀ request ∈ requests, request.base? = none) →
    (start.run requests).rules = requests.filterMap Request.added?
  /-- The count of changes is that of the changes that were made, in 64 bits. -/
  generation : (start.run requests).generation = .ofNat (start.alterations requests)
  /-- A change is made if every pattern in it compiles; otherwise the first that does not is the answer. -/
  answered : ∀ request : Request, request.isChange = true →
    ((∀ d ∈ request.drafts, d.Compiles) ∧ ((start.run requests).respond request).result = .ok .done) ∨
      ∃ before pattern chain after, request.drafts = before ++ .search pattern chain :: after ∧
        (∀ d ∈ before, d.Compiles) ∧ Pattern.compile? pattern = none ∧
        ((start.run requests).respond request).result = .error (.invalidPattern pattern)
  /-- A change that was not made leaves the router as it is, and so does every other request. -/
  kept : ∀ request : Request,
    request.isChange = false ∨ (∃ failure, ((start.run requests).respond request).result = .error failure) →
    ((start.run requests).respond request).router = start.run requests
  /-- A path goes through the chain of the rule with the lowest index among those whose test holds. -/
  routed : ∀ path chain, ((start.run requests).respond (.lookUp path)).result = .ok (.chain chain) ↔
    ∃ (i : Nat) (rule : Rule), (start.run requests).rules[i]? = some rule ∧ rule.test.Holds path ∧
      rule.chain = chain ∧ ∀ j < i, ∀ other : Rule, (start.run requests).rules[j]? = some other →
        ¬ other.test.Holds path
  /-- A path for which no test holds is told with the name of the router. -/
  unrouted : ∀ path, ((start.run requests).respond (.lookUp path)).result = .error (.unrouted name path) ↔
    ∀ rule ∈ (start.run requests).rules, ¬ rule.test.Holds path
  /-- Rules that are added one by one to an empty list send every path where they do when they come together. -/
  one_by_one : ∀ drafts : List Rule.Draft, (∀ d ∈ drafts, d.Compiles) → ∀ path,
    ((start.run (requests ++ .clear :: drafts.map .append)).respond (.lookUp path)).result =
      ((start.run (requests ++ [.replace drafts])).respond (.lookUp path)).result

/-- Every run of requests to a router that began without rules keeps to the law. -/
theorem requestLaw_of_fresh (name : String) (extensions : List String) (requests : List Request) :
    RequestLaw name (.fresh name extensions) requests where
  added draft rule := Request.added?_append_iff
  based drafts base := Request.base?_replace_iff
  since before request base after hrequests hbase hafter := by
    rw [hrequests]
    exact rules_run_of_base _ hbase hafter
  opening hrequests := rules_run _ hrequests
  generation := by
    rw [generation, changes_run]
    simp [fresh]
  answered request hchange := respond_change_cases _ hchange
  kept request h := by
    refine next_of_not_alters ?_
    rcases h with hask | ⟨failure, hfailed⟩
    · rw [alters, hask, Bool.false_and]
    · rw [alters, hfailed]
      exact Bool.and_false _
  routed path chain := by
    rw [lookUp_eq_ok_iff]
    constructor
    · rintro ⟨rule, hfirst, hchain⟩
      obtain ⟨i, hi, hholds, hlower⟩ := firstRule?_eq_some_iff.mp hfirst
      exact ⟨i, rule, hi, hholds, hchain, hlower⟩
    · rintro ⟨i, rule, hi, hholds, hchain, hlower⟩
      exact ⟨rule, firstRule?_eq_some_iff.mpr ⟨i, hi, hholds, hlower⟩, hchain⟩
  unrouted path := by
    have hmiss := @lookUp_eq_error_iff ((fresh name extensions).run requests) path
    rwa [name_run, firstRule?_eq_none_iff] at hmiss
  one_by_one drafts hall path := by
    rcases Rule.Draft.mapM_build_cases drafts with
      ⟨-, rules, hrules⟩ | ⟨before, pattern, chain, after, rfl, -, hp, -⟩
    · obtain ⟨hsingle, htogether⟩ := rules_run_one_by_one (fresh name extensions)
        (Rule.Draft.mapM_build_eq_ok_iff.mp hrules) requests
      exact lookUp_congr (hsingle.trans htogether.symm) (by rw [name_run, name_run]) path
    · exact absurd hp (hall (.search pattern chain) (by simp))

/-- A list in the place of another, and requests ahead of it and behind it. Two patterns do not compile. -/
def assorted : List Request :=
  [.append (.ready ⟨.endsWith ".js", [.plain .babel]⟩), .append (.search "\\.(js" []),
    .replace [.ready ⟨.beginsWith "/lib/", [.plain .raw]⟩, .search "\\.json$" [.plain .json]],
    .replace [.ready (.forAll []), .search "(" []], .append (.search "\\.css$" [.plain .styles])]

/-- Patterns that compile give rules that take the paths in which they are found, alone or in a list. One that does
    not compile keeps out its own rule, or the whole list that it came with. -/
theorem requestLaw_of_patterns :
    ∃ data style : Pattern, Pattern.compile? "\\.json$" = some data ∧ Pattern.compile? "\\.css$" = some style ∧
      ((fresh "test" []).run assorted).rules =
        [⟨.beginsWith "/lib/", [.plain .raw]⟩, ⟨.finds data, [.plain .json]⟩, ⟨.finds style, [.plain .styles]⟩] ∧
      ((fresh "test" []).run assorted).generation = 3 ∧
      (((fresh "test" []).run assorted).respond (.lookUp "/package.json")).result = .ok (.chain [.plain .json]) ∧
      (((fresh "test" []).run assorted).respond (.lookUp "/a.js")).result = .error (.unrouted "test" "/a.js") := by
  obtain ⟨data, hdata, hjson⟩ : Pattern.FindsTails "\\.json$" [".json"] :=
    Pattern.findsTails_of_endings (by decide +kernel)
  obtain ⟨style, hstyle, hcss⟩ : Pattern.FindsTails "\\.css$" [".css"] :=
    Pattern.findsTails_of_endings (by decide +kernel)
  have hlaw := requestLaw_of_fresh "test" [] assorted
  have hrefused : (Request.replace [.ready (.forAll []), .search "(" []]).base? = none := by
    have hopen : Pattern.compile? "(" = none := by decide +kernel
    rw [Option.eq_none_iff_forall_ne_some]
    intro base hbase
    rcases (hlaw.based _ _).mp hbase with _ | ⟨-, _ | ⟨_ | ⟨-, hp⟩, -⟩⟩
    rw [hopen] at hp
    cases hp
  have hrules : ((fresh "test" []).run assorted).rules =
      [⟨.beginsWith "/lib/", [.plain .raw]⟩, ⟨.finds data, [.plain .json]⟩, ⟨.finds style, [.plain .styles]⟩] := by
    have hbase := (hlaw.based [.ready ⟨.beginsWith "/lib/", [.plain .raw]⟩, .search "\\.json$" [.plain .json]] _).mpr
      (.cons (.ready _) (.cons (.search _ hdata) .nil))
    have hadded := (hlaw.added (.search "\\.css$" [.plain .styles]) _).mpr (.search _ hstyle)
    rw [hlaw.since (assorted.take 2) _ _ (assorted.drop 3) rfl hbase (by simp [assorted, hrefused])]
    simp [assorted, List.filterMap_cons, hadded]
  refine ⟨data, style, hdata, hstyle, hrules, ?_,
    (hlaw.routed _ _).mpr ⟨1, ⟨.finds data, [.plain .json]⟩, ?_, ?_, rfl, ?_⟩, ?_⟩
  · rw [hlaw.generation]
    decide +kernel
  · rw [hrules]
    rfl
  · exact PathTest.passes_iff.mp ((hjson "/package.json").trans (by decide))
  · intro j hj other hother
    obtain rfl : j = 0 := Nat.lt_one_iff.mp hj
    rw [hrules] at hother
    cases hother
    exact Rule.takes_eq_false_iff.mp (by decide)
  · refine (hlaw.unrouted _).mpr fun rule hrule => Rule.takes_eq_false_iff.mp ?_
    rw [hrules] at hrule
    simp only [List.mem_cons, List.not_mem_nil, or_false] at hrule
    rcases hrule with rfl | rfl | rfl
    · decide
    · exact (hjson "/a.js").trans (by decide)
    · exact (hcss "/a.js").trans (by decide)

end Router
end Routing
end SandboxRouting
