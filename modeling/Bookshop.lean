import Bookshop.Proofs.Catalog.Merged
import Bookshop.Proofs.Resources.Settled
import Bookshop.Proofs.Search.Credits
import Bookshop.Proofs.Search.Fields
import Bookshop.Proofs.Search.Rearranged
import Bookshop.Proofs.Search.Rounds
import Bookshop.Proofs.Search.SortTexts
import Bookshop.Proofs.Search.Ties
import Bookshop.Proofs.Search.Titles
import Bookshop.Proofs.Store.ReadBack
import Bookshop.Proofs.Web.ClientPages
import Bookshop.Proofs.Web.NotModified
import Bookshop.Proofs.Web.TagLists
