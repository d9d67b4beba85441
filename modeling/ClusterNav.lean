import ClusterNav.Main
import ClusterNav.Proofs.KeyAnswers
import ClusterNav.Proofs.FrameRows
import ClusterNav.Proofs.HostRoute
import ClusterNav.Proofs.ScopeHistory
import ClusterNav.Proofs.FollowAlive
import ClusterNav.Proofs.StackChange
import ClusterNav.Proofs.TickOwners
import ClusterNav.Proofs.OwnTicks
import ClusterNav.Proofs.Resizing
import ClusterNav.Proofs.ViewTower
import ClusterNav.Proofs.CoveredViews
import ClusterNav.Proofs.PromptKeys
import ClusterNav.Proofs.ScopeChoice
import ClusterNav.Proofs.CursorRow
import ClusterNav.Proofs.CursorShown
import ClusterNav.Proofs.SessionChange
import ClusterNav.Proofs.Hotkeys
import ClusterNav.Proofs.TowerInvariant
import ClusterNav.Proofs.Openings
import ClusterNav.Proofs.KnownKinds
import ClusterNav.Proofs.ColumnIsolation
import ClusterNav.Proofs.PickedColumns
import ClusterNav.Proofs.ToggledRows
import ClusterNav.Proofs.CommittedColumns
import ClusterNav.Proofs.FilterOperations
import ClusterNav.Proofs.Occurrences
import ClusterNav.Proofs.FilterMatches
import ClusterNav.Proofs.ListItems
import ClusterNav.Proofs.HeldColumns
import ClusterNav.Proofs.CurrentLists
import ClusterNav.Proofs.EscapeKey
import ClusterNav.Proofs.WayHome
import ClusterNav.Proofs.StoredColumns
import ClusterNav.Proofs.CheckedRows
import ClusterNav.Proofs.ChosenColumns
import ClusterNav.Proofs.ListWidth
import ClusterNav.Proofs.UntouchedCommit
import ClusterNav.Proofs.OpenPrompts
import ClusterNav.Proofs.TypedText
import ClusterNav.Proofs.RelatedItems
import ClusterNav.Proofs.LogEnd
import ClusterNav.Proofs.LoneLog
import ClusterNav.Proofs.LogRows
import ClusterNav.Proofs.WrappedStyles
import ClusterNav.Proofs.ItemOrder
import ClusterNav.Proofs.PickerWindow
import ClusterNav.Proofs.SortedSelection
import ClusterNav.Proofs.HelpPages
import ClusterNav.Proofs.ColoredYaml
import ClusterNav.Proofs.ScopeBox
import ClusterNav.Proofs.LogWay
import ClusterNav.Proofs.TableColumns
import ClusterNav.Proofs.ViewportBounds
import ClusterNav.Proofs.Initials
import ClusterNav.Proofs.ScopedItems
import ClusterNav.Proofs.PodOwners
import ClusterNav.Proofs.LogWindows
import ClusterNav.Proofs.PageBounds
import ClusterNav.Proofs.AgeRuns
