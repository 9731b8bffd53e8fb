import BeanPath.Access
import BeanPath.Accessor
import BeanPath.Samples
import BeanPath.Schema.Describe
import BeanPath.Value.Digest
import BeanPath.Proofs.Adaptation
import BeanPath.Proofs.Agreement
import BeanPath.Proofs.Composition
import BeanPath.Proofs.Distinct
import BeanPath.Proofs.Fitting
import BeanPath.Proofs.Frame
import BeanPath.Proofs.Labels
import BeanPath.Proofs.Literals
import BeanPath.Proofs.RoundTrip
import BeanPath.Proofs.TextValues
import BeanPath.Proofs.TypeNames
import BeanPath.Proofs.Levels
import BeanPath.Proofs.Modes
import BeanPath.Proofs.Elementwise
import BeanPath.Proofs.Instances
import BeanPath.Proofs.EveryElement
import BeanPath.Proofs.FiniteMaps
import BeanPath.Proofs.SetPositions
import BeanPath.Proofs.Sequences
import BeanPath.Proofs.WriteBack
import BeanPath.Proofs.KeyTypes
import BeanPath.Proofs.Equality
import BeanPath.Proofs.Streams
import BeanPath.Proofs.Traversal
import BeanPath.Proofs.Boundaries
import BeanPath.Proofs.Resolution
import BeanPath.Proofs.Aliases
import BeanPath.Proofs.DeclaredTypes
import BeanPath.Proofs.PropertyNames
import BeanPath.Proofs.Progress
import BeanPath.Proofs.Qualifiers
import BeanPath.Proofs.ShortNames
