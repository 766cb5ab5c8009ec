/-
What a mutation leaves alone. A view `φ` of a unit that does not look at HP
survives heals, lifesteals and pierces (`Stays`); a hit, or a healer's own
slows, change it as `f` says (`Views`). Slows and revive flags are two views.
-/
import AutoChess.Game.Health

namespace AutoChess.Game

/-- The boards keep their units, and the view of each becomes what `f` made
of it. -/
def Views {α : Type} (φ f : UnitInstance → α) (sim sim' : BattleSim) : Prop :=
  ∃ g, sim' = sim.each g ∧ ∀ u ∈ sim.units, (g u).actor = u.actor ∧ φ (g u) = f u

/-- The view of every unit stays. -/
def Stays {α : Type} (φ : UnitInstance → α) (sim sim' : BattleSim) : Prop := Views φ φ sim sim'

/-- A view that HP and death do not change. -/
def Unhurt {α : Type} (φ : UnitInstance → α) : Prop :=
  ∀ u hp alive, φ { u with hp := hp, alive := alive } = φ u

section
variable {α : Type} {φ f : UnitInstance → α} {localeCompare : String → String → Int} {sim : BattleSim}
  {cycle tick : Nat}

theorem Stays.refl (sim : BattleSim) : Stays φ sim sim :=
  ⟨id, by simp [BattleSim.each], fun _ _ => ⟨rfl, rfl⟩⟩

theorem Views.trans {sim₁ sim₂ sim₃ : BattleSim} (h₁ : Views φ f sim₁ sim₂) (h₂ : Stays φ sim₂ sim₃) :
    Views φ f sim₁ sim₃ := by
  obtain ⟨g, rfl, hg⟩ := h₁
  obtain ⟨g', rfl, hg'⟩ := h₂
  refine ⟨g' ∘ g, by simp [BattleSim.each], fun u hu => ?_⟩
  have hgu : g u ∈ (sim₁.each g).units := by
    rw [units_each]
    exact List.mem_map_of_mem hu
  obtain ⟨hactor, hview⟩ := hg u hu
  obtain ⟨hactor', hview'⟩ := hg' (g u) hgu
  exact ⟨hactor'.trans hactor, hview'.trans hview⟩

theorem Stays.trans {sim₁ sim₂ sim₃ : BattleSim} (h₁ : Stays φ sim₁ sim₂) (h₂ : Stays φ sim₂ sim₃) :
    Stays φ sim₁ sim₃ := Views.trans h₁ h₂

theorem stays_update {id : String} {f : UnitInstance → UnitInstance} (hactor : ∀ u, (f u).actor = u.actor)
    (hview : ∀ u, φ (f u) = φ u) : Stays φ sim (sim.update id f) := by
  refine ⟨_, rfl, fun u _ => ?_⟩
  split
  · exact ⟨hactor u, hview u⟩
  · exact ⟨rfl, rfl⟩

theorem healIf_stays (hφ : Unhurt φ) {target : Option UnitInstance} {healer : UnitInstance} :
    Stays φ sim (healIf target healer sim cycle tick).1 := by
  unfold healIf healOne
  split
  · exact Stays.refl sim
  · dsimp only
    split
    · exact Stays.refl sim
    · exact stays_update (fun _ => rfl) fun u => hφ u _ u.alive

theorem applyHealerSupport_stays (hφ : Unhurt φ) {healer : UnitInstance} :
    Stays φ sim (applyHealerSupport localeCompare healer sim cycle tick).1 := by
  simp only [applyHealerSupport]
  split
  · exact (healIf_stays hφ).trans (healIf_stays hφ)
  · exact healIf_stays hφ

theorem applyLifesteal_stays (hφ : Unhurt φ) {fighter : String} {dmg : Int} :
    Stays φ sim (applyLifesteal fighter dmg sim cycle tick).1 := by
  unfold applyLifesteal
  split
  · exact Stays.refl sim
  · exact stays_update (fun _ => rfl) fun u => hφ u _ u.alive

theorem applyPierce_stays (hφ : Unhurt φ) {ranger primary : UnitInstance} {dmg : Int} :
    Stays φ sim (applyPierce ranger primary dmg sim cycle tick).1 := by
  unfold applyPierce
  split
  · exact Stays.refl sim
  · exact stays_update (pierced_actor _) fun u => hφ u _ _

theorem applySlow_stays (cycle tick : Nat) (hφ : ∀ healer u, φ (slowed healer u) = φ u) {healer target : UnitInstance} :
    Stays φ sim (applySlow healer target sim cycle tick).1 :=
  stays_update (slowed_actor _) (hφ _)

end

end AutoChess.Game
