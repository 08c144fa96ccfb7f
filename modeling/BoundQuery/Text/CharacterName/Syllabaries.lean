/-!
# Names of syllabaries
-/

namespace BoundQuery.Text.CharacterName

/-- The characters from `U+1000` to `U+1FFF`: further alphabets and syllabaries. -/
def syllabaries : String := "
  a+1000+MYANMAR LETTER KAqHApGAqHApNGApCAqHApJAqHApNYAqNYApTTArHApDDArHApNNApTAqHApDAqHApNApPAqHA
  pBAqHApMApYApRApLApWApSApHApLLApApSHAN ApIqIpUqUpEpMON EpOpAUiVOWEL SIGN TALL AAtAAtIuItUuUtEtAI
  tMON IIxOtE ABOVEiSIGN ANUSVARAnDOT BELOWnVISARGApRAMAnASATiCONSONANT SIGN MEDIAL YAbeRAbeWAbeHA
  iLETTER GREAT SAiDIGIT ZEROoONEoTWOpHREEoFOURpIVEoSIXpEVENoEIGHToNINEiSIGN LITTLE SECTIONnSECTION
  jYMBOL LOCATIVEpCOMPLETEDpAFOREMENTIONEDpGENITIVEiLETTER SHAqSApVOCALIC RyRxLyL
  iVOWEL SIGN VOCALIC RbcRbbLbcLiLETTER MON NGAtJHAtBBAvEiCONSONANT SIGN MON MEDIAL NAbiMAbiLA
  iLETTER SGAW KAREN SHAiVOWEL SIGN SGAW KAREN EUiTONE MARK SGAW KAREN HATHIbdKE PHO
  iLETTER WESTERN PWO KAREN THAbhPWAiVOWEL SIGN WESTERN PWO KAREN EUblUE
  iSIGN WESTERN PWO KAREN TONE-1bk2bk3bk4bk5iLETTER EASTERN PWO KAREN NNAbhYWAbhGHWA
  iVOWEL SIGN GEBA KAREN ItKAYAH OEzUzEEiLETTER SHAN KAvHAuGAuCAuZAuNYAuDAuNAuPHAuFAuBAuTHAuHA
  iCONSONANT SIGN SHAN MEDIAL WAiVOWEL SIGN SHAN AAyEz ABOVEyFINAL YiSIGN SHAN TONE-2x3x5x6
  sCOUNCIL TONE-2bf3baEMPHATIC TONEiLETTER RUMAI PALAUNG FAiSIGN RUMAI PALAUNG TONE-5jHAN DIGIT ZERO
  tONEtTWOuHREEtFOURuIVEtSIXuEVENtEIGHTtNINEjIGN KHAMTI TONE-1z3iVOWEL SIGN AITON AbaI
  iSYMBOL SHAN ONEuEXCLAMATIONaGEORGIAN CAPITAL LETTER ANyBANyGANyDONyENyVINyZENyTANyINyKANyLASyMAN
  yNARyONyPARyZHARyRAEySANyTARyUNyPHARyKHARyGHANyQARySHINyCHINzANyJILyCILzHARyXANyJHANyHAEzEzIEyWE
  yHARzOEy+2+YNy+6+AENj+3+LETTER ANqBANqGANqDONqENqVINqZENqTANqINqKANqLASqMANqNARqONqPARqZHARqRAE
  qSANqTARqUNqPHARqKHARqGHANqQARqSHINqCHINrANqJILqCILrHARqXANqJHANqHAErErIEqWEqHARrOEqFIqYNqELIFI
  qTURNED GANqAINjPARAGRAPH SEPARATORaMODIFIER LETTER GEORGIAN NARaGEORGIAN LETTER AENqHARD SIGN
  qLABIAL SIGNaHANGUL CHOSEONG KIYEOKqSSANGKIYEOKqNIEUNqTIKEUTqSSANGTIKEUTqRIEULqMIEUMqPIEUP
  qSSANGPIEUPrIOSrSANGSIOSqIEUNGqCIEUCqSSANGCIEUCqCHIEUCHqKHIEUKHqTHIEUTHqPHIEUPHqHIEUHqNIEUN-KIYEOK
  qSSANGNIEUNqNIEUN-TIKEUTwPIEUPqTIKEUT-KIYEOKqRIEUL-NIEUNqSSANGRIEULqRIEUL-HIEUHqKAPYEOUNRIEUL
  qMIEUM-PIEUPqKAPYEOUNMIEUMqPIEUP-KIYEOKwNIEUNwTIKEUTwSIOSba-KIYEOKbbTIKEUTbbPIEUPxSANGSIOS
  xIOS-CIEUCwCIEUCxHIEUCHwTHIEUTHwPHIEUPHqKAPYEOUNPIEUPySSANGPIEUPqSIOS-KIYEOKvNIEUNvTIKEUTvRIEUL
  vMIEUMvPIEUPba-KIYEOKvSSANGSIOSvIEUNGvCIEUCwHIEUCHvKHIEUKHvTHIEUTHvPHIEUPHvHIEUHqCHITUEUMSIOS
  zSANGSIOSrEONGCHIEUMSIOSbcSANGSIOSqPANSIOSqIEUNG-KIYEOKwTIKEUTwMIEUMwPIEUPwSIOSwPANSIOSqSSANGIEUNG
  qIEUNG-CIEUCxHIEUCHwTHIEUTHwPHIEUPHqYESIEUNGqCIEUC-IEUNGrHITUEUMCIEUCySSANGCIEUCrEONGCHIEUMCIEUC
  bbSSANGCIEUCrHIEUCH-KHIEUKHyHIEUHtTUEUMCHIEUCHrEONGCHIEUMCHIEUCHqPHIEUPH-PIEUPqKAPYEOUNPHIEUPH
  qSSANGHIEUHqYEORINHIEUHqKIYEOK-TIKEUTqNIEUN-SIOSwCIEUCwHIEUHqTIKEUT-RIEULqFILLERhJUNGSEONG FILLER
  rAsErYAtErEOs,rYEOt,rOrWAtErOErYOrUrWEOt,sIrYUrEUrYIrIrA-OtUrYA-OuYOrEO-OuUuEUrYEO-OvUrO-EOu,tYEtO
  tUrYO-YAwEvEOuOuIrU-AuEtEO-EUtYEtUrYU-AuEOv,uYEOw,uUuIrEU-UuEUrYI-UrI-AtYAtOtUtEUtARAEArARAEAw-EO
  xUxIrSSANGARAEArA-EUrYA-UsEO-YArO-YAvEiONGSEONG KIYEOKrSSANGKIYEOKrKIYEOK-SIOSrNIEUNw-CIEUCxHIEUH
  rTIKEUTrRIEULw-KIYEOKxMIEUMxPIEUPxSIOSxTHIEUTHxPHIEUPHxHIEUHrMIEUMrPIEUPw-SIOSrSIOSsSANGSIOSrIEUNG
  rCIEUCsHIEUCHrKHIEUKHrTHIEUTHrPHIEUPHrHIEUHrKIYEOK-RIEULySIOS-KIYEOKrNIEUN-KIYEOKxTIKEUTxSIOS
  xPANSIOSxTHIEUTHrTIKEUT-KIYEOKyRIEULrRIEUL-KIYEOK-SIOSxNIEUNxTIKEUTbd-HIEUHrSSANGRIEUL
  rRIEUL-MIEUM-KIYEOKbdSIOSxPIEUP-SIOSbdHIEUHxKAPYEOUNPIEUPxSSANGSIOSxPANSIOSxKHIEUKHxYEORINHIEUH
  rMIEUM-KIYEOKxRIEULxPIEUPxSIOSySANGSIOSxPANSIOSxCHIEUCHxHIEUHrKAPYEOUNMIEUMrPIEUP-RIEULxPHIEUPH
  xHIEUHrKAPYEOUNPIEUPrSIOS-KIYEOKwTIKEUTwRIEULwPIEUPrPANSIOSrIEUNG-KIYEOKxSSANGKIYEOKrSSANGIEUNG
  rIEUNG-KHIEUKHrYESIEUNGz-SIOSbaPANSIOSrPHIEUPH-PIEUPrKAPYEOUNPHIEUPHrHIEUH-NIEUNxRIEULxMIEUMxPIEUP
  rYEORINHIEUHrKIYEOK-NIEUNyPIEUPyCHIEUCHyKHIEUKHyHIEUHrSSANGNIEUNaETHIOPIC SYLLABLE HAtUtItAAtEEu,
  tOuAsLAtUtItAAtEEu,tOtWAsHHAuUuIuAAuEEv,uOuWAsMAtUtItAAtEEu,tOtWAsSZAuUuIuAAuEEv,uOuWAsRAtUtItAA
  tEEu,tOtWAsSAtUtItAAtEEu,tOtWAtHAuUuIuAAuEEv,uOuWAsQAtUtItAAtEEu,tOuAtWAu+2+IuAAuEEv,t+3+HAuUuIuAA
  uEEv,uOu+2+WAv+2+IvAAvEEw,s+3+BAtUtItAAtEEu,tOtWAsVAtUtItAAtEEu,tOtWAsTAtUtItAAtEEu,tOtWAsCAtUtI
  tAAtEEu,tOtWAsXAtUtItAAtEEu,tOuAtWAu+2+IuAAuEEv,s+3+NAtUtItAAtEEu,tOtWAtYAuUuIuAAuEEv,uOuWA
  sGLOTTAL AbaUbaIbaAAbaEEbb,baObaWAsKAtUtItAAtEEu,tOuAtWAu+2+IuAAuEEv,t+3+XAuUuIuAAuEEv,uOu+2+WA
  v+2+IvAAvEEw,s+3+WAtUtItAAtEEu,tOuAsPHARYNGEAL AbdUbdIbdAAbdEEbe,bdOs+2+ZAtUtItAAtEEu,tOtWAtHAuUuI
  uAAuEEv,uOuWAsYAtUtItAAtEEu,tOuAsDAtUtItAAtEEu,tOtWAtDAuUuIuAAuEEv,uOuWAsJAtUtItAAtEEu,tOtWAsGAtU
  tItAAtEEu,tOuAtWAu+2+IuAAuEEv,t+3+GAuUuIuAAuEEv,uOuWAAsTHAuUuIuAAuEEv,uOuWAsCHAuUuIuAAuEEv,uOuWA
  sPHAuUuIuAAuEEv,uOuWAsTSAuUuIuAAuEEv,uOuWAtZAuUuIuAAuEEv,uOvAsFAtUtItAAtEEu,tOtWAsPAtUtItAAtEEu,tO
  tWAsRYAsMYAsFYAj+3+COMBINING GEMINATION AND VOWEL LENGTH MARKtVOWEL LENGTH MARKtGEMINATION MARK
  jSECTION MARKjWORDSPACEjFULL STOPjCOMMAjSEMICOLONjCOLONjPREFACE COLONjQUESTION MARK
  jPARAGRAPH SEPARATORjDIGIT ONEpTWOqHREEpFOURqIVEpSIXqEVENpEIGHTpNINEjNUMBER TENrWENTYrHIRTYqFORTY
  rIFTYqSIXTYrEVENTYqEIGHTYqNINETYqHUNDREDqTEN THOUSANDj+4+SYLLABLE SEBATBEIT MWAsMWIuEEv,
  sSEBATBEIT BWAsBWIuEEv,sSEBATBEIT FWAsFWIuEEv,sSEBATBEIT PWAsPWIuEEv,jTONAL MARK YIZETuDERET
  uRIKRIKuSHORT RIKRIKuDIFATuKENATuCHIRETuHIDETuDERET-HIDETuKURTa+7+CHEROKEE LETTER AqEqIqOqUqVqGA
  qKAqGErIrOrUrVqHArErIrOrUrVqLArErIrOrUrVqMArErIrOrUqNAqHNAqNAHrErIrOrUrVqQUAsEsIsOsUsVqSAr,rErIrO
  rUrVqDAqTAqDEqTEqDIqTIqDOrUrVrLAqTLAsEsIsOsUsVrSAsEsIsOsUsVqWArErIrOrUrVqYArErIrOrUrVqMV
  j+3+SMALL LETTER YExIxOxUxVwMVb+3+ANADIAN SYLLABICS HYPHENtEtAAItIuItOuOtY-CREE OOtCARRIER EEbbItA
  uAtWEvST-CREE WEuIuEST-CREE WIuIIuEST-CREE WIIuOuEST-CREE WOuOOuEST-CREE WOOtNASKAPI WOOtWA
  uEST-CREE WAuAAuEST-CREE WAAtNASKAPI WAAtAItY-CREE WtGLOTTAL STOPtFINAL ACUTEzGRAVE
  zBOTTOM HALF RINGzTOP HALF RINGzRIGHT HALF RINGbbNGzDOUBLE ACUTEbgSHORT VERTICAL STROKES
  zMIDDLE DOTzSHORT HORIZONTAL STROKEzPLUSzDOWN TACKtENtINtONtANtPEuAAIuIvIuOvOtY-CREE POO
  tCARRIER HEEbcItPAvAuWEtWEST-CREE PWEtPWItWEST-CREE PWItPWIItWEST-CREE PWIItPWOtWEST-CREE PWOtPWOO
  tWEST-CREE PWOOtPWAtWEST-CREE PWAtPWAAtWEST-CREE PWAAtY-CREE PWAAtPtWEST-CREE PtCARRIER HtTEuAAIuI
  vIuOvOtY-CREE TOOtCARRIER DEEbcItTAvAuWEtWEST-CREE TWEtTWItWEST-CREE TWItTWIItWEST-CREE TWIItTWO
  tWEST-CREE TWOtTWOOtWEST-CREE TWOOtTWAtWEST-CREE TWAtTWAAtWEST-CREE TWAAtNASKAPI TWAAtTuTEvIvOvA
  tKEuAAIuIvIuOvOtY-CREE KOOtKAvAuWEtWEST-CREE KWEtKWItWEST-CREE KWItKWIItWEST-CREE KWIItKWO
  tWEST-CREE KWOtKWOOtWEST-CREE KWOOtKWAtWEST-CREE KWAtKWAAtWEST-CREE KWAAtNASKAPI KWAAtKuW
  tSOUTH-SLAVEY KEHbhIHbhOHbhAHtCEuAAIuIvIuOvOtY-CREE COOtCAvAuWEtWEST-CREE CWEtCWItWEST-CREE CWI
  tCWIItWEST-CREE CWIItCWOtWEST-CREE CWOtCWOOtWEST-CREE CWOOtCWAtWEST-CREE CWAtCWAAtWEST-CREE CWAA
  tNASKAPI CWAAtCtSAYISI THtMEuAAIuIvIuOvOtY-CREE MOOtMAvAuWEtWEST-CREE MWEtMWItWEST-CREE MWItMWII
  tWEST-CREE MWIItMWOtWEST-CREE MWOtMWOOtWEST-CREE MWOOtMWAtWEST-CREE MWAtMWAAtWEST-CREE MWAA
  tNASKAPI MWAAtMtWEST-CREE MtMHtATHAPASCAN MtSAYISI MtNEuAAIuIvIuOvOtY-CREE NOOtNAvAuWE
  tWEST-CREE NWEtNWAtWEST-CREE NWAtNWAAtWEST-CREE NWAAtNASKAPI NWAAu,tCARRIER NGtNHtLEuAAIuIvIuOvO
  tY-CREE LOOtLAvAuWEtWEST-CREE LWEtLWItWEST-CREE LWItLWIItWEST-CREE LWIItLWOtWEST-CREE LWOtLWOO
  tWEST-CREE LWOOtLWAtWEST-CREE LWAtLWAAtWEST-CREE LWAAtLtWEST-CREE LtMEDIAL LtSEuAAIuIvIuOvO
  tY-CREE SOOtSAvAuWEtWEST-CREE SWEtSWItWEST-CREE SWItSWIItWEST-CREE SWIItSWOtWEST-CREE SWOtSWOO
  tWEST-CREE SWOOtSWAtWEST-CREE SWAtSWAAtWEST-CREE SWAAtNASKAPI SWAAtStATHAPASCAN StSWtBLACKFOOT S
  tMOOSE-CREE SKtNASKAPI SKWbc-WbcPWAbcTWAbcKWAbcCWAtSHEvIwIvOwOvAwAvWEtWEST-CREE SHWEtSHWI
  tWEST-CREE SHWItSHWIItWEST-CREE SHWIItSHWOtWEST-CREE SHWOtSHWOOtWEST-CREE SHWOOtSHWA
  tWEST-CREE SHWAtSHWAAtWEST-CREE SHWAAtSHtYEuAAIuIvIuOvOu-CREE YOOuAvAuWEtWEST-CREE YWEtYWI
  tWEST-CREE YWItYWIItWEST-CREE YWIItYWOtWEST-CREE YWOtYWOOtWEST-CREE YWOOtYWAtWEST-CREE YWAtYWAA
  tWEST-CREE YWAAtNASKAPI YWAAtYtBIBLE-CREE YtWEST-CREE YtSAYISI YItREu-CREE REtWEST-CREE LEtRAAIuI
  vIuOvOtWEST-CREE LOtRAvAtWEST-CREE LAtRWAAtWEST-CREE RWAAtRtWEST-CREE RtMEDIAL RtFEuAAIuIvIuOvOuA
  vAuWAAtWEST-CREE FWAAtFtTHEtN-CREE THEtTHItN-CREE THItTHIItN-CREE THIItTHOwOvAwAvWAA
  tWEST-CREE THWAAtTHuTHEwIwOwAw,uYEvIvOvAtNUNAVIK HEbcIbdIbcObdObcAbdAbc,yUT HtHKtQAAIuIvIuOvOuAvA
  u,tTLHEwIwOwAtWEST-CREE REbeIbeObeAtNGAAIvIwIvOwOvAwAv,uNGtSAYISI SHEbcIbcObcAtWOODS-CREE THEbgI
  bgObgAbg,tLHIwIvOwOvAwAv,tTH-CREE THEbdIbeIbdObeObdAbeAbd,tAIVILIK BtBLACKFOOT EbdIbdObdAbdWEbeI
  beObeAbdNEbeIbeObeAbdKEbeIbeObeAtSAYISI HEbbIbbObbAtCARRIER GHUbdObdEbeEbdIbdAbbRUbcObcEbdEbcIbcA
  bbWUbcObcEbdEbcIbcAbbHWUbdObdEbeEbdIbdAbbTHUbdObdEbeEbdIbdAbcTUbdObdEbeEbdIbdAbbPUbcObcEbdEbcIbcA
  bc,bbGUbcObcEbdEbcIbcAbbKHUbdObdEbeEbdIbdAbcKUbdObdEbeEbdIbdAbd,bbNUbcObcEbdEbcIbcAbbMUbcObcEbdE
  bcIbcAbbYUbcObcEbdEbcIbcAbbJUtSAYISI JUtCARRIER JObcEbdEbcItSAYISI JItCARRIER JAbcJUbdObdEbeEbdI
  bdAbbLUbcObcEbdEbcIbcAbbDLUbdObdEbeEbdIbdAbbLHUbdObdEbeEbdIbdAbbTLHUbeObeEbfEbeIbeAbdUbdObdEbeEbdI
  bdAbbZUbcObcEbdEbcIbcAbc,bbINITIAL ZbbDZUbdObdEbeEbdIbdAbbSUbcObcEbdEbcIbcAbcHUbdObdEbeEbdIbdAbd,
  bbTSUbdObdEbeEbdIbdAbbCHUbdObdEbeEbdIbdAbbTTSUbeObeEbfEbeIbeAuHI SIGNtFULL STOPtQAItNGAIuNGIxIwOxO
  wAxAtWOODS-CREE THWEEbhIbiIbhObiObhAbiAbeFINAL THtBLACKFOOT WaOGHAM SPACE MARKgLETTER BEITHnLUIS
  nFEARNnSAILnNIONnUATHnDAIRnTINNEnCOLLoEIRTnMUINnGORTnNGEADALnSTRAIFnRUISnAILMnONNnURnEADHADH
  nIODHADHnEABHADHnORnUILLEANNnIFINnEAMHANCHOLLnPEITHgFEATHER MARKgREVERSED FEATHER MARK
  a+4+RUNIC LETTER FEHU FEOH FE FnVnURUZ UR UnYRo,nWnTHURISAZ THURS THORNnETHnANSUZ AnOS OnAC AoESC
  nLONG-BRANCH-OSS OnSHORT-TWIG-OSS OnOoEoNnRAIDO RAD REID RnKAUNAnCENnKAUN KnGnENGnGEBO GYFU GoAR
  nWUNJO WYNN WnHAGLAZ HpEGL HnLONG-BRANCH-HAGALL HnSHORT-TWIG-HAGALL HnNAUDIZ NYD NAUD N
  nSHORT-TWIG-NAUD NnDOTTED-NnISAZ IS ISS InEnJERAN JnGERnLONG-BRANCH-AR AEnSHORT-TWIG-AR AnIWAZ EOH
  nPERTHO PEORTH PnALGIZ EOLHXnSOWILO SoIGEL LONG-BRANCH-SOL SoHORT-TWIG-SOL SnCnZnTIWAZ TIR TYR T
  nSHORT-TWIG-TYR TnDnBERKANAN BEORC BJARKAN BnSHORT-TWIG-BJARKAN BnDOTTED-PnOPEN-PnEHWAZ EH E
  nMANNAZ MAN MnLONG-BRANCH-MADR MnSHORT-TWIG-MADR MnLAUKAZ LAGU LOGR LnDOTTED-LnINGWAZq,
  nDAGAZ DAEG DnOTHALAN ETHEL OnEARnIORnCWEORTHoALCoEALCnSTANnLONG-BRANCH-YRnSHORT-TWIG-YR
  nICELANDIC-YRnQnXgSINGLE PUNCTUATIONgMULTIPLE PUNCTUATIONgCROSS PUNCTUATIONgARLAUG SYMBOL
  gTVIMADUR SYMBOLgBELGTHOR SYMBOLgLETTER KnSHnOOnFRANKS CASKET OSbbISbbEHbbACbcESC
  a+8+TAGALOG LETTER ApIpUpKApGApNGApTApDApNApPApBApMApYApRApLApWApSApHAiVOWEL SIGN ItUiSIGN VIRAMA
  nPAMUDPODi+a+LETTER ARCHAIC RAaHANUNOO LETTER ApIpUpKApGApNGApTApDApNApPApBApMApYApRApLApWApSApHA
  iVOWEL SIGN ItUiSIGN PAMUDPODaPHILIPPINE SINGLE PUNCTUATIONlDOUBLE PUNCTUATIONa+a+BUHID LETTER AnI
  nUnKAnGAnNGAnTAnDAnNAnPAnBAnMAnYAnRAnLAnWAnSAnHAgVOWEL SIGN IrUa+d+TAGBANWA LETTER AqIqUqKAqGAqNGA
  qTAqDAqNAqPAqBAqMAqYAq+2+LAqWAqSAj+2+VOWEL SIGN IuUa+d+KHMER LETTER KAoHAoOoHOnNGOnCAoHAoOoHOnNYO
  nDAnTTHAnDOnTTHOnNNOnTAoHAoOoHOnNOnBAnPHAoOoHOnMOnYOnROnLOnVOnSHAoSOoAnHAnLAnQA
  gINDEPENDENT VOWEL QAQbaAzIbaIzUbaKbaUbbVyRYbaYyLYbaYyQEzAIzOO TYPE ONEbhTWOzAUgVOWEL INHERENT AQ
  wAmSIGN AArIsIrYsYrUsUsArOErYArIErErAEsIrOOrAUgSIGN NIKAHITlREAHMUKlYUUKALEAPINTUlMUUSIKATOAN
  lTRIISAPlBANTOClROBATlTOANDAKHIATlKAKABATlAHSDAlSAMYOK SANNYAlVIRIAMlCOENGlBATHAMASATlKHAN
  lBARIYOOSANlCAMNUC PII KUUHlLEK TOOlBEYYALlPHNAEK MUANlKOOMUUTgCURRENCY SYMBOL RIEL
  gSIGN AVAKRAHASANYAmTTHACANg+3+DIGIT ZEROmONEmTWOnHREEmFOURnIVEmSIXnEVENmEIGHTmNINE
  g+7+SYMBOL LEK ATTAK SONxMUOYxPIIxBEIyUONxPRAMbb-MUOYbcPIIbcBEIbdUONa+7+MONGOLIAN BIRGAkELLIPSIS
  kCOMMAkFULL STOPkCOLONkFOUR DOTSkTODO SOFT HYPHENkSIBE SYLLABLE BOUNDARY MARKERkMANCHU COMMA
  rFULL STOPkNIRUGUkFREE VARIATION SELECTOR ONEbiTWObjHREEkVOWEL SEPARATOR
  kFREE VARIATION SELECTOR FOURkDIGIT ZEROqONEqTWOrHREEqFOURrIVEqSIXrEVENqEIGHTqNINEk+7+LETTER ArErI
  rOrUrOErUErEErNArANGrBArPArQArGArMArLArSAsHArTArDArCHArJArYArRArWArFArKAsHArTSArZArHAArZRArLHArZHI
  rCHIrTODO LONG VOWEL SIGNwEwIwOwUwOEwUEwANGwBAwPAwQAwGAwMAwTAwDAwCHAwJAwTSAwYAwWAwKAwGAAwHAAwJIA
  wNIAwDZArSIBE EwIxYwUEx,wANGwKAwGAwHAwPAwSHAwTAwDAwJAwFAwGAAwHAAwTSAwZAwRAAwCHAwZHArMANCHU IyKAyRA
  yFAyZHArCHA WITH TWO DOTSr+8+ALI GALI ANUSVARA ONEbaVISARGA ONEbaDAMARUbaUBADAMAbaINVERTED UBADAMA
  baBALUDAbaTHREE BALUDAbaAbaIbaKAbaNGAbaCAbaTTAbcHAbaDDAbaNNAbaTAbaDAbaPAbbHAbaSSAbaZHAbbAbaAH
  rTODO ALI GALI TAbfZHArMANCHU ALI GALI GHAbhNGAbhCAbhJHAbhTTAbhDDHAbhTAbhDHAbhSSAbhCYAbhZHAbiA
  rALI GALI HALF UbfYArMANCHU ALI GALI BHArALI GALI DAGALGArMANCHU ALI GALI LHA
  a+6+CANADIAN SYLLABICS OYtAYuAYtWAYtPOYuAYuWOYtTAYtKAYuWAYtMAYtNOYuAYtLAYtSOYuAYuHOYvAYvWOYtYOYuAY
  tRAYtNWItOJIBWAY NWItNWIItOJIBWAY NWIItNWOtOJIBWAY NWOtNWOOtOJIBWAY NWOOtRWEEvIwIvOwOvAtOJIBWAY P
  bbTbbKbbCbbMbbNbbSbcHtEASTERN WtWESTERN WtFINAL SMALL RINGzRAISED DOTtR-CREE RWEtWEST-CREE LOObeAA
  tTHWEwAuTHWEwOOwAAuLHWEwOOtSAYISI SHWEbcOObaHOOtCARRIER GWUbbDENE GEEbbGAAbcWAtSAYISI JUU
  tCARRIER JWAtBEAVER DENE LbfRtCARRIER DENTAL Sa+b+LIMBU VOWEL-CARRIER LETTERgLETTER KAoHAnGAoHA
  nNGAnCAoHAnJAoHAnYANnTAoHAnDAoHAnNAnPAoHAnBAoHAnMAnYAnRAnLAnWAnSHAoSAoAnHAnGYANnTRA
  g+2+VOWEL SIGN ArIrUrEErAIrOOrAUrErOgSUBJOINED LETTER YAxRAxWAh+5+MALL LETTER KAtNGAtANUSVARAtTA
  tNAtPAtMAtRAtLAhIGN MUKPHRENGlKEMPHRENGlSA-Il+5+LOOg+4+EXCLAMATION MARKgQUESTION MARKgDIGIT ZERO
  mONEmTWOnHREEmFOURnIVEmSIXnEVENmEIGHTmNINEaTAI LE LETTER KAoXAoNGAoTSAoSAoYAoTApHAoLAoPApHAoMAoFA
  oVAoHAoQAoKHAoTSHAoNAoAoIoEEpHoUoOOp,oUEoEoAUEpIo+3+TONE-2t3t4t5t6a+c+NEW TAI LUE LETTER HIGH QA
  tLOW QAtHIGH KAyXAyNGAtLOW KAxXAxNGAtHIGH TSAySAyYAtLOW TSAxSAxYAtHIGH TAzHAyNAtLOW TAyHAxNA
  tHIGH PAzHAyMAtLOW PAyHAxMAtHIGH FAyVAyLAtLOW FAxVAxLAtHIGH HAyDAyBAtLOW HAxDAxBAtHIGH KVAyXVA
  tLOW KVAxXVAtHIGH SUAtLOW SUAm+5+VOWEL SIGN VOWEL SHORTENERxAAxIIxUyUxExAExOyAxUExAYyAYxUYxOYyAY
  xUEYxIYmLETTER FINAL VzNGba,zMzKzDzBmTONE MARK-1w2m+7+DIGIT ZEROsONEsTWOtHREEsFOURtIVEsSIXtEVEN
  sEIGHTsNINEmTHAM DIGIT ONEm+4+SIGN LAEuVaKHMER SYMBOL PATHAMASATnMUOY KOETnPII KOETnBEI KOET
  oUON KOETnPRAM KOETr-MUOY KOETsPII KOETsBEI KOETtUON KOETnDAP KOETq-MUOY KOETrPII KOETrBEI KOET
  sUON KOETrPRAM KOETnTUTEYASATnMUOY ROCnPII ROCnBEI ROCoUON ROCnPRAM ROCr-MUOY ROCsPII ROCsBEI ROC
  tUON ROCnDAP ROCq-MUOY ROCrPII ROCrBEI ROCsUON ROCrPRAM ROCaBUGINESE LETTER KAqGAqNGAsKAqPAqBAqMA
  rPAqTAqDAqNArRAqCAqJAqNYAsCAqYAqRAqLAqVAqSAqAqHAjVOWEL SIGN IuUuEuOuAEj+3+PALLAWAjEND OF SECTION
  aTAI THAM LETTER HIGH KAwHAwXAqLOW KAvXAvHAqNGAqHIGH CAwHAqLOW CAuSAuCHAqNYAqRATAqHIGH RATHAqDA
  qLOW RATHAqRANAqHIGH TAwHAqLOW TAvHAqNAqBAqHIGH PAwHAvFAqLOW PAuFAuPHAqMAqLOW YAqHIGH YAqRArUEqLA
  rUEqWAqHIGH SHAwSAwAvHAqLLAqAqLOW HAqIrIqUrUqEEqOOqLAEqGREAT SAjCONSONANT SIGN MEDIAL RAbfLA
  yLA TANG LAIjSIGN MAI KANG LAIjCONSONANT SIGN FINAL NGAyLOW PAyHIGH RATHA OR LOW PAyMAyBAySA
  j+2+SIGN SAKOTjVOWEL SIGN AuMAI SATuAAuTALL AAuIvIuUEvUEv,vUuOvA BELOWvYuEuAEuOOuAIuTHAM AI
  uOA ABOVEjSIGN MAI KANGoTONE-1t2oKHUEN TONE-3z4z5oRA HAAMoMAI SAMoKHUEN-LUE KARAN
  j+3+COMBINING CRYPTOGRAMMIC DOTjHORA DIGIT ZEROuONEuTWOvHREEuFOURvIVEuSIXvEVENuEIGHTuNINE
  j+7+THAM DIGIT ZEROuONEuTWOvHREEuFOURvIVEuSIXvEVENuEIGHTuNINEj+7+SIGN WIANGtWAAKoSAWANoKEOWoHOY
  oDOKMAIoREVERSED ROTATED RANAoMAI YAMOKoKAANsKUUoSATKAANvKUUoHANGoCAANG
  a+3+COMBINING DOUBLED CIRCUMFLEX ACCENTlIAERESIS-RINGkINFINITYkDOWNWARDS ARROWkTRIPLE DOT
  kX-X BELOWkWIGGLY LINE BELOWkOPEN MARK BELOWkDOUBLE OPEN MARK BELOW
  kLIGHT CENTRALIZATION STROKE BELOWkSTRONG CENTRALIZATION STROKE BELOWkPARENTHESES ABOVE
  kDOUBLE PARENTHESES ABOVEkPARENTHESES BELOWwOVERLAYkLATIN SMALL LETTER W BELOWbdTURNED W BELOW
  lEFT PARENTHESIS ABOVE LEFTkRIGHT PARENTHESIS ABOVE RIGHTkLEFT PARENTHESIS BELOW LEFT
  kRIGHT PARENTHESIS BELOW RIGHTkSQUARE BRACKETS ABOVEkNUMBER SIGN ABOVEkINVERTED DOUBLE ARCH ABOVE
  kPLUS SIGN ABOVEkDOUBLE PLUS SIGN ABOVEbbBELOWkTRIPLE ACUTE ACCENTkLATIN SMALL LETTER INSULAR GblR
  blTa+32+BALINESE SIGN ULU RICEMsCANDRAoCECEKoSURANGoBISAHjLETTER AKARAv TEDUNGqIKARAv TEDUNGqUKARA
  v TEDUNGqRA REPAx TEDUNGqLA LENGAy TEDUNGqEKARAqAIKARAqOKARAv TEDUNGqKAs MAHAPRANAqGAs GORAqNGAqCA
  s LACAqJAs JERAqNYAqTA LATIKtMURDA MAHAPRANAqDA MURDA ALPAPRANAzMAHAPRANAqNA RAMBATqTAs TAWAqDA
  s MADUqNAqPAs KAPALqBAs KEMBANGqMAqYAqRAqLAqWAqSA SAGAvPAs,qHAjSIGN REREKANjVOWEL SIGN TEDUNGuULU
  x SARIuSUKUy ILUTuRA REPAbb TEDUNGuLA LENGAbc TEDUNGuTALINGba REPAbbTEDUNGbbREPA TEDUNGuPEPET
  z TEDUNGjADEG ADEGjLETTER KAF SASAKrHOT SASAKqTZIR SASAKqEF SASAKqVE SASAKqZAL SASAKqASYURA SASAK
  rRCHAIC JNYAj+4+DIGIT ZEROpONEpTWOqHREEpFOURqIVEpSIXqEVENpEIGHTpNINEjPANTIlMADAjWINDU
  jCARIK PAMUNGKAHpSIKIpPARERENjPAMENENGjMUSICAL SYMBOL DONGzENGzUNGzANGbc SURANGzINGzAENGzEUNGzAING
  baNG GEDEyCOMBINING TEGEHbiENDEPbiKEMPULbmLIbiJEGOGANbiKEMPUL WITH JEGOGANbmLI WITH JEGOGANbiBENDE
  biGONGyRIGHT-HAND OPEN DUGbpAGbjCLOSED TUKbrAKyLEFT-HAND OPEN PANGboUNGbiCLOSED PLAKbrUK
  biOPEN PINGjPANTI LANTANGlMADA LANTANGa+2+SUNDANESE SIGN PANYECEKsGLAYARtWISADkLETTER ArIrUrAErOrE
  sUrKArQArGArNGArCArJArZArNYArTArDArNArPArFArVArBArMArYArRArLArWArSArXArHAkCONSONANT SIGN PAMINGKAL
  bbNYAKRAbdIKUkVOWEL SIGN PANGHULUyYUKUyAELAENGyOLONGxMEPETxNEULEUNGkSIGN PAMAAEHpVIRAMA
  kCONSONANT SIGN PASANGAN MAbiWAkLETTER KHArSYAkDIGIT ZEROqONEqTWOrHREEqFOURrIVEqSIXrEVENqEIGHT
  qNINEkAVAGRAHAkLETTER REUrLEUrBHArFINAL KxMaBATAK LETTER AnSIMALUNGUN AnHAnSIMALUNGUN HA
  nMANDAILING HAnBAnKARO BAnPAnSIMALUNGUN PAnNAnMANDAILING NAnWAnSIMALUNGUN WAnPAKPAK WAnGA
  nSIMALUNGUN GAnJAnDAnRAnSIMALUNGUN RAnMAnSIMALUNGUN MAoOUTHERN TAnNORTHERN TAnSAoIMALUNGUN SA
  nMANDAILING SAnYAnSIMALUNGUN YAnNGAnLAnSIMALUNGUN LAnNYAnCAnNDAnMBAnInUgSIGN TOMPIgVOWEL SIGN E
  rPAKPAK ErEErIrKARO IrOrKARO OrUs FOR SIMALUNGUN SAgCONSONANT SIGN NGvHgPANGOLATjONGONAN
  g+9+SYMBOL BINDU NA METEKtPINARBORAStJUDULtPANGOLATaLEPCHA LETTER KApLApHAoGApLAoNGAoCApHAoJAoNYA
  oTApHAoDAoNAoPApLApHAoFApLAoBApLAoMApLAoTSAqHAoDZAoYAoRAoLAoHApLAoVAoSApHAoWAoA
  hSUBJOINED LETTER YAyRAhVOWEL SIGN AAsIsOtOsUtUsEhCONSONANT SIGN KwMwLwNwPwRwTwNYIN-DOwKANG
  hSIGN RANmNUKTAh+4+PUNCTUATION TA-ROLtNYET THYOOM TA-ROLtCER-WAtTSHOOK CER-WAz,hDIGIT ZEROnONEnTWO
  oHREEnFOURoIVEnSIXoEVENnEIGHTnNINEh+4+LETTER TTAqHAoDDAaOL CHIKI DIGIT ZEROpONEpTWOqHREEpFOURqIVE
  pSIXqEVENpEIGHTpNINEjLETTER LAqATrGrNGrLqLAAqAAKsJsMsWqLIqISrHrNYrRqLUqUCrDrNNrYqLEqEPrDDrNrRRqLO
  qOTTrBrVrHjMU TTUDDAGjGAAHLAA TTUDDAAGjMU-GAAHLAA TTUDDAAGjRELAAjPHAARKAAjAHADjPUNCTUATION MUCAAD
  vDOUBLE MUCAADaCYRILLIC SMALL LETTER ROUNDED VEwLONG-LEGGED DEwNARROW OwWIDE ESwTALL TE
  xHREE-LEGGED TExALL HARD SIGNbbYATwUNBLENDED UKa+8+GEORGIAN MTAVRULI CAPITAL LETTER ANbhBANbhGAN
  bhDONbhENbhVINbhZENbhTANbhINbhKANbhLASbhMANbhNARbhONbhPARbhZHARbhRAEbhSANbhTARbhUNbhPHARbhKHAR
  bhGHANbhQARbhSHINbhCHINbiANbhJILbhCILbiHARbhXANbhJHANbhHAEbiEbiIEbhWEbhHARbiOEbhFIbhYNbhELIFI
  bhTURNED GANbhAINbi+3+ENbhHARD SIGNbhLABIAL SIGNaSUNDANESE PUNCTUATION BINDU SURYAbcPANGLONG
  bdURNAMAbcCAKRAbcLEU SATANGAbcKA SATANGAbcDA SATANGAbcBA SATANGAa+9+VEDIC TONE KARSHANAlSHARA
  lPRENKHAgSIGN NIHSHVASAlYAJURVEDIC MIDLINE SVARITAgTONE YAJURVEDIC AGGRAVATED INDEPENDENT SVARITA
  wINDEPENDENT SVARITAwKATHAKA INDEPENDENT SVARITAlCANDRA BELOW
  lYAJURVEDIC KATHAKA INDEPENDENT SVARITA SCHROEDERlDOUBLE SVARITAlTRIPLE SVARITAlKATHAKA ANUDATTA
  lDOT BELOWlTWO DOTS BELOWmHREE DOTS BELOWlRIGVEDIC KASHMIRI INDEPENDENT SVARITA
  lATHARVAVEDIC INDEPENDENT SVARITAgSIGN VISARGA SVARITAtUDATTAlREVERSED VISARGA UDATTA
  lVISARGA ANUDATTAlREVERSED VISARGA ANUDATTAlVISARGA UDATTA WITH TAILtANUDATTA WITH TAIL
  lANUSVARA ANTARGOMUKHAuBAHIRGOMUKHAuVAMAGOMUKHAbf WITH TAILlTIRYAKlHEXIFORM LONG ANUSVARA
  lLONG ANUSVARAlRTHANG LONG ANUSVARAlANUSVARA UBHAYATO MUKHAmRDHAVISARGAlROTATED ARDHAVISARGA
  gTONE CANDRA ABOVEgSIGN JIHVAMULIYAlUPADHMANIYAlATIKRAMAgTONE RING ABOVElDOUBLE RING ABOVE
  gSIGN DOUBLE ANUSVARA ANTARGOMUKHAa+6+LATIN LETTER SMALL CAPITAL AbcEgSMALL LETTER TURNED AE
  gLETTER SMALL CAPITAL BARRED BbbCbbDbbETHbc,gSMALL LETTER TURNED OPEN EbaIgLETTER SMALL CAPITAL J
  bbKbbL WITH STROKEbbMbbREVERSED NbbObcPEN OgSMALL LETTER SIDEWAYS ObdPEN Obd WITH STROKEtTURNED OE
  gLETTER SMALL CAPITAL OUgSMALL LETTER TOP HALF OtBOTTOM HALF OgLETTER SMALL CAPITAL PbbREVERSED R
  bbTURNED Rbc,bbUgSMALL LETTER SIDEWAYS UbcDIAERESIZED UbcTURNED MgLETTER SMALL CAPITAL VbbWbbZ
  bbEZHnVOICED LARYNGEAL SPIRANTnAINaGREEK LETTER SMALL CAPITAL GAMMAbbLAMDAbbPIbbRHObbPSI
  aCYRILLIC LETTER SMALL CAPITAL ELaMODIFIER LETTER CAPITAL AzEyBzARRED ByDyEyREVERSED EyGyHyIyJyKyL
  yMyNyREVERSED NyOzUyPyRyTyUyWqSMALL AwTURNED AwALPHAwTURNED AEwBwDwEwSCHWAwOPEN EwTURNED OPEN EwG
  wTURNED IwKwMwENGwOxPEN OwTOP HALF OwBOTTOM HALF OwPwTwUwSIDEWAYS UwTURNED MwVwAINwBETA
  wGREEK GAMMAwDELTAwGREEK PHIwCHIaLATIN SUBSCRIPT SMALL LETTER IbdRbdUbdV
  aGREEK SUBSCRIPT SMALL LETTER BETAbdGAMMAbdRHObdPHIbdCHIaLATIN SMALL LETTER UEtB WITH MIDDLE TILDE
  tD WITH MIDDLE TILDEtF WITH MIDDLE TILDEtM WITH MIDDLE TILDEtN WITH MIDDLE TILDE
  tP WITH MIDDLE TILDEtR WITH MIDDLE TILDEbaFISHHOOK AND MIDDLE TILDEtS WITH MIDDLE TILDE
  tT WITH MIDDLE TILDEtZ WITH MIDDLE TILDEtTURNED GaMODIFIER LETTER CYRILLIC EN
  aLATIN SMALL LETTER INSULAR GtTH WITH STRIKETHROUGHmCAPITAL LETTER I WITH STROKE
  mLETTER IOTA WITH STROKEtP WITH STROKEmCAPITAL LETTER U WITH STROKEmLETTER UPSILON WITH STROKE
  tB WITH PALATAL HOOKtD WITH PALATAL HOOKtF WITH PALATAL HOOKtG WITH PALATAL HOOK
  tK WITH PALATAL HOOKtL WITH PALATAL HOOKtM WITH PALATAL HOOKtN WITH PALATAL HOOK
  tP WITH PALATAL HOOKtR WITH PALATAL HOOKtS WITH PALATAL HOOKtESH WITH PALATAL HOOK
  tV WITH PALATAL HOOKtX WITH PALATAL HOOKtZ WITH PALATAL HOOKtA WITH RETROFLEX HOOK
  uLPHA WITH RETROFLEX HOOKtD WITH HOOK AND TAILtE WITH RETROFLEX HOOKtOPEN E WITH RETROFLEX HOOK
  tREVERSED OPEN E WITH RETROFLEX HOOKtSCHWA WITH RETROFLEX HOOKtI WITH RETROFLEX HOOK
  tOPEN O WITH RETROFLEX HOOKtESH WITH RETROFLEX HOOKtU WITH RETROFLEX HOOKtEZH WITH RETROFLEX HOOK
  aMODIFIER LETTER SMALL TURNED ALPHAwCx WITH CURLwETHwREVERSED OPEN EwFwDOTLESS J WITH STROKE
  wSCRIPT GwTURNED HwI WITH STROKExOTAwCAPITAL Ibf WITH STROKEwJ WITH CROSSED-TAIL
  wL WITH RETROFLEX HOOKbdPALATAL HOOKwCAPITAL LwM WITH HOOKwTURNED M WITH LONG LEGwN WITH LEFT HOOK
  bdRETROFLEX HOOKwCAPITAL NwBARRED OwPHIwS WITH HOOKwESHwT WITH PALATAL HOOKwU BARxPSILONwCAPITAL U
  wV WITH HOOKwTURNED VwZx WITH RETROFLEX HOOKbdCURLwEZHwTHETAaCOMBINING DOTTED GRAVE ACCENT
  rACUTE ACCENTkSNAKE BELOWlUSPENSION MARKkMACRON-ACUTEkGRAVE-MACRONkMACRON-GRAVEkACUTE-MACRON
  kGRAVE-ACUTE-GRAVEkACUTE-GRAVE-ACUTEkLATIN SMALL LETTER R BELOWkBREVE-MACRONkMACRON-BREVE
  kDOUBLE CIRCUMFLEX ABOVEkOGONEK ABOVEkZIGZAG BELOWkIS BELOWkUR ABOVElS ABOVE
  kLATIN SMALL LETTER FLATTENED OPEN A ABOVEbdAEbeObeVbdC CEDILLAbdINSULAR DbdETHbdG
  qLETTER SMALL CAPITAL GqSMALL LETTER KbdLqLETTER SMALL CAPITAL LblMqSMALL LETTER N
  qLETTER SMALL CAPITAL NblRqSMALL LETTER R ROTUNDAbdSbdLONG SbdZbdALPHAbdBbeETAbdSCHWAbdF
  bdL WITH DOUBLE MIDDLE TILDEbdO WITH LIGHT CENTRALIZATION STROKEbdPbdESH
  bdU WITH LIGHT CENTRALIZATION STROKEbdWbdA WITH DIAERESISbdO WITH DIAERESISbdU WITH DIAERESIS
  kUP TACK ABOVEkKAVYKA ABOVE RIGHTxLEFTkDOT ABOVE LEFTkWIDE INVERTED BRIDGE BELOWkDOT BELOW LEFT
  lELETION MARKlOUBLE INVERTED BREVE BELOWkALMOST EQUAL TO BELOWkLEFT ARROWHEAD ABOVE
  kRIGHT ARROWHEAD AND DOWN ARROWHEAD BELOWaLATIN CAPITAL LETTER A WITH RING BELOW
  gSMALL LETTER A WITH RING BELOWgCAPITAL LETTER B WITH DOT ABOVEgSMALL LETTER B WITH DOT ABOVE
  gCAPITAL LETTER B WITH DOT BELOWgSMALL LETTER B WITH DOT BELOWgCAPITAL LETTER B WITH LINE BELOW
  gSMALL LETTER B WITH LINE BELOWgCAPITAL LETTER C WITH CEDILLA AND ACUTE
  gSMALL LETTER C WITH CEDILLA AND ACUTEgCAPITAL LETTER D WITH DOT ABOVE
  gSMALL LETTER D WITH DOT ABOVEgCAPITAL LETTER D WITH DOT BELOWgSMALL LETTER D WITH DOT BELOW
  gCAPITAL LETTER D WITH LINE BELOWgSMALL LETTER D WITH LINE BELOWgCAPITAL LETTER D WITH CEDILLA
  gSMALL LETTER D WITH CEDILLAgCAPITAL LETTER D WITH CIRCUMFLEX BELOW
  gSMALL LETTER D WITH CIRCUMFLEX BELOWgCAPITAL LETTER E WITH MACRON AND GRAVE
  gSMALL LETTER E WITH MACRON AND GRAVEgCAPITAL LETTER E WITH MACRON AND ACUTE
  gSMALL LETTER E WITH MACRON AND ACUTEgCAPITAL LETTER E WITH CIRCUMFLEX BELOW
  gSMALL LETTER E WITH CIRCUMFLEX BELOWgCAPITAL LETTER E WITH TILDE BELOW
  gSMALL LETTER E WITH TILDE BELOWgCAPITAL LETTER E WITH CEDILLA AND BREVE
  gSMALL LETTER E WITH CEDILLA AND BREVEgCAPITAL LETTER F WITH DOT ABOVE
  gSMALL LETTER F WITH DOT ABOVEgCAPITAL LETTER G WITH MACRONgSMALL LETTER G WITH MACRON
  gCAPITAL LETTER H WITH DOT ABOVEgSMALL LETTER H WITH DOT ABOVEgCAPITAL LETTER H WITH DOT BELOW
  gSMALL LETTER H WITH DOT BELOWgCAPITAL LETTER H WITH DIAERESISgSMALL LETTER H WITH DIAERESIS
  gCAPITAL LETTER H WITH CEDILLAgSMALL LETTER H WITH CEDILLAgCAPITAL LETTER H WITH BREVE BELOW
  gSMALL LETTER H WITH BREVE BELOWgCAPITAL LETTER I WITH TILDE BELOWgSMALL LETTER I WITH TILDE BELOW
  gCAPITAL LETTER I WITH DIAERESIS AND ACUTEgSMALL LETTER I WITH DIAERESIS AND ACUTE
  gCAPITAL LETTER K WITH ACUTEgSMALL LETTER K WITH ACUTEgCAPITAL LETTER K WITH DOT BELOW
  gSMALL LETTER K WITH DOT BELOWgCAPITAL LETTER K WITH LINE BELOWgSMALL LETTER K WITH LINE BELOW
  gCAPITAL LETTER L WITH DOT BELOWgSMALL LETTER L WITH DOT BELOW
  gCAPITAL LETTER L WITH DOT BELOW AND MACRONgSMALL LETTER L WITH DOT BELOW AND MACRON
  gCAPITAL LETTER L WITH LINE BELOWgSMALL LETTER L WITH LINE BELOW
  gCAPITAL LETTER L WITH CIRCUMFLEX BELOWgSMALL LETTER L WITH CIRCUMFLEX BELOW
  gCAPITAL LETTER M WITH ACUTEgSMALL LETTER M WITH ACUTEgCAPITAL LETTER M WITH DOT ABOVE
  gSMALL LETTER M WITH DOT ABOVEgCAPITAL LETTER M WITH DOT BELOWgSMALL LETTER M WITH DOT BELOW
  gCAPITAL LETTER N WITH DOT ABOVEgSMALL LETTER N WITH DOT ABOVEgCAPITAL LETTER N WITH DOT BELOW
  gSMALL LETTER N WITH DOT BELOWgCAPITAL LETTER N WITH LINE BELOWgSMALL LETTER N WITH LINE BELOW
  gCAPITAL LETTER N WITH CIRCUMFLEX BELOWgSMALL LETTER N WITH CIRCUMFLEX BELOW
  gCAPITAL LETTER O WITH TILDE AND ACUTEgSMALL LETTER O WITH TILDE AND ACUTE
  gCAPITAL LETTER O WITH TILDE AND DIAERESISgSMALL LETTER O WITH TILDE AND DIAERESIS
  gCAPITAL LETTER O WITH MACRON AND GRAVEgSMALL LETTER O WITH MACRON AND GRAVE
  gCAPITAL LETTER O WITH MACRON AND ACUTEgSMALL LETTER O WITH MACRON AND ACUTE
  gCAPITAL LETTER P WITH ACUTEgSMALL LETTER P WITH ACUTEgCAPITAL LETTER P WITH DOT ABOVE
  gSMALL LETTER P WITH DOT ABOVEgCAPITAL LETTER R WITH DOT ABOVEgSMALL LETTER R WITH DOT ABOVE
  gCAPITAL LETTER R WITH DOT BELOWgSMALL LETTER R WITH DOT BELOW
  gCAPITAL LETTER R WITH DOT BELOW AND MACRONgSMALL LETTER R WITH DOT BELOW AND MACRON
  gCAPITAL LETTER R WITH LINE BELOWgSMALL LETTER R WITH LINE BELOWgCAPITAL LETTER S WITH DOT ABOVE
  gSMALL LETTER S WITH DOT ABOVEgCAPITAL LETTER S WITH DOT BELOWgSMALL LETTER S WITH DOT BELOW
  gCAPITAL LETTER S WITH ACUTE AND DOT ABOVEgSMALL LETTER S WITH ACUTE AND DOT ABOVE
  gCAPITAL LETTER S WITH CARON AND DOT ABOVEgSMALL LETTER S WITH CARON AND DOT ABOVE
  gCAPITAL LETTER S WITH DOT BELOW AND DOT ABOVEgSMALL LETTER S WITH DOT BELOW AND DOT ABOVE
  gCAPITAL LETTER T WITH DOT ABOVEgSMALL LETTER T WITH DOT ABOVEgCAPITAL LETTER T WITH DOT BELOW
  gSMALL LETTER T WITH DOT BELOWgCAPITAL LETTER T WITH LINE BELOWgSMALL LETTER T WITH LINE BELOW
  gCAPITAL LETTER T WITH CIRCUMFLEX BELOWgSMALL LETTER T WITH CIRCUMFLEX BELOW
  gCAPITAL LETTER U WITH DIAERESIS BELOWgSMALL LETTER U WITH DIAERESIS BELOW
  gCAPITAL LETTER U WITH TILDE BELOWgSMALL LETTER U WITH TILDE BELOW
  gCAPITAL LETTER U WITH CIRCUMFLEX BELOWgSMALL LETTER U WITH CIRCUMFLEX BELOW
  gCAPITAL LETTER U WITH TILDE AND ACUTEgSMALL LETTER U WITH TILDE AND ACUTE
  gCAPITAL LETTER U WITH MACRON AND DIAERESISgSMALL LETTER U WITH MACRON AND DIAERESIS
  gCAPITAL LETTER V WITH TILDEgSMALL LETTER V WITH TILDEgCAPITAL LETTER V WITH DOT BELOW
  gSMALL LETTER V WITH DOT BELOWgCAPITAL LETTER W WITH GRAVEgSMALL LETTER W WITH GRAVE
  gCAPITAL LETTER W WITH ACUTEgSMALL LETTER W WITH ACUTEgCAPITAL LETTER W WITH DIAERESIS
  gSMALL LETTER W WITH DIAERESISgCAPITAL LETTER W WITH DOT ABOVEgSMALL LETTER W WITH DOT ABOVE
  gCAPITAL LETTER W WITH DOT BELOWgSMALL LETTER W WITH DOT BELOWgCAPITAL LETTER X WITH DOT ABOVE
  gSMALL LETTER X WITH DOT ABOVEgCAPITAL LETTER X WITH DIAERESISgSMALL LETTER X WITH DIAERESIS
  gCAPITAL LETTER Y WITH DOT ABOVEgSMALL LETTER Y WITH DOT ABOVEgCAPITAL LETTER Z WITH CIRCUMFLEX
  gSMALL LETTER Z WITH CIRCUMFLEXgCAPITAL LETTER Z WITH DOT BELOWgSMALL LETTER Z WITH DOT BELOW
  gCAPITAL LETTER Z WITH LINE BELOWgSMALL LETTER Z WITH LINE BELOWtH WITH LINE BELOW
  tT WITH DIAERESIStW WITH RING ABOVEtY WITH RING ABOVEtA WITH RIGHT HALF RINGtLONG S WITH DOT ABOVE
  bgIAGONAL STROKEbfHIGH STROKEgCAPITAL LETTER SHARP SgSMALL LETTER DELTA
  gCAPITAL LETTER A WITH DOT BELOWgSMALL LETTER A WITH DOT BELOWgCAPITAL LETTER A WITH HOOK ABOVE
  gSMALL LETTER A WITH HOOK ABOVEgCAPITAL LETTER A WITH CIRCUMFLEX AND ACUTE
  gSMALL LETTER A WITH CIRCUMFLEX AND ACUTEgCAPITAL LETTER A WITH CIRCUMFLEX AND GRAVE
  gSMALL LETTER A WITH CIRCUMFLEX AND GRAVEgCAPITAL LETTER A WITH CIRCUMFLEX AND HOOK ABOVE
  gSMALL LETTER A WITH CIRCUMFLEX AND HOOK ABOVEgCAPITAL LETTER A WITH CIRCUMFLEX AND TILDE
  gSMALL LETTER A WITH CIRCUMFLEX AND TILDEgCAPITAL LETTER A WITH CIRCUMFLEX AND DOT BELOW
  gSMALL LETTER A WITH CIRCUMFLEX AND DOT BELOWgCAPITAL LETTER A WITH BREVE AND ACUTE
  gSMALL LETTER A WITH BREVE AND ACUTEgCAPITAL LETTER A WITH BREVE AND GRAVE
  gSMALL LETTER A WITH BREVE AND GRAVEgCAPITAL LETTER A WITH BREVE AND HOOK ABOVE
  gSMALL LETTER A WITH BREVE AND HOOK ABOVEgCAPITAL LETTER A WITH BREVE AND TILDE
  gSMALL LETTER A WITH BREVE AND TILDEgCAPITAL LETTER A WITH BREVE AND DOT BELOW
  gSMALL LETTER A WITH BREVE AND DOT BELOWgCAPITAL LETTER E WITH DOT BELOW
  gSMALL LETTER E WITH DOT BELOWgCAPITAL LETTER E WITH HOOK ABOVEgSMALL LETTER E WITH HOOK ABOVE
  gCAPITAL LETTER E WITH TILDEgSMALL LETTER E WITH TILDEgCAPITAL LETTER E WITH CIRCUMFLEX AND ACUTE
  gSMALL LETTER E WITH CIRCUMFLEX AND ACUTEgCAPITAL LETTER E WITH CIRCUMFLEX AND GRAVE
  gSMALL LETTER E WITH CIRCUMFLEX AND GRAVEgCAPITAL LETTER E WITH CIRCUMFLEX AND HOOK ABOVE
  gSMALL LETTER E WITH CIRCUMFLEX AND HOOK ABOVEgCAPITAL LETTER E WITH CIRCUMFLEX AND TILDE
  gSMALL LETTER E WITH CIRCUMFLEX AND TILDEgCAPITAL LETTER E WITH CIRCUMFLEX AND DOT BELOW
  gSMALL LETTER E WITH CIRCUMFLEX AND DOT BELOWgCAPITAL LETTER I WITH HOOK ABOVE
  gSMALL LETTER I WITH HOOK ABOVEgCAPITAL LETTER I WITH DOT BELOWgSMALL LETTER I WITH DOT BELOW
  gCAPITAL LETTER O WITH DOT BELOWgSMALL LETTER O WITH DOT BELOWgCAPITAL LETTER O WITH HOOK ABOVE
  gSMALL LETTER O WITH HOOK ABOVEgCAPITAL LETTER O WITH CIRCUMFLEX AND ACUTE
  gSMALL LETTER O WITH CIRCUMFLEX AND ACUTEgCAPITAL LETTER O WITH CIRCUMFLEX AND GRAVE
  gSMALL LETTER O WITH CIRCUMFLEX AND GRAVEgCAPITAL LETTER O WITH CIRCUMFLEX AND HOOK ABOVE
  gSMALL LETTER O WITH CIRCUMFLEX AND HOOK ABOVEgCAPITAL LETTER O WITH CIRCUMFLEX AND TILDE
  gSMALL LETTER O WITH CIRCUMFLEX AND TILDEgCAPITAL LETTER O WITH CIRCUMFLEX AND DOT BELOW
  gSMALL LETTER O WITH CIRCUMFLEX AND DOT BELOWgCAPITAL LETTER O WITH HORN AND ACUTE
  gSMALL LETTER O WITH HORN AND ACUTEgCAPITAL LETTER O WITH HORN AND GRAVE
  gSMALL LETTER O WITH HORN AND GRAVEgCAPITAL LETTER O WITH HORN AND HOOK ABOVE
  gSMALL LETTER O WITH HORN AND HOOK ABOVEgCAPITAL LETTER O WITH HORN AND TILDE
  gSMALL LETTER O WITH HORN AND TILDEgCAPITAL LETTER O WITH HORN AND DOT BELOW
  gSMALL LETTER O WITH HORN AND DOT BELOWgCAPITAL LETTER U WITH DOT BELOW
  gSMALL LETTER U WITH DOT BELOWgCAPITAL LETTER U WITH HOOK ABOVEgSMALL LETTER U WITH HOOK ABOVE
  gCAPITAL LETTER U WITH HORN AND ACUTEgSMALL LETTER U WITH HORN AND ACUTE
  gCAPITAL LETTER U WITH HORN AND GRAVEgSMALL LETTER U WITH HORN AND GRAVE
  gCAPITAL LETTER U WITH HORN AND HOOK ABOVEgSMALL LETTER U WITH HORN AND HOOK ABOVE
  gCAPITAL LETTER U WITH HORN AND TILDEgSMALL LETTER U WITH HORN AND TILDE
  gCAPITAL LETTER U WITH HORN AND DOT BELOWgSMALL LETTER U WITH HORN AND DOT BELOW
  gCAPITAL LETTER Y WITH GRAVEgSMALL LETTER Y WITH GRAVEgCAPITAL LETTER Y WITH DOT BELOW
  gSMALL LETTER Y WITH DOT BELOWgCAPITAL LETTER Y WITH HOOK ABOVEgSMALL LETTER Y WITH HOOK ABOVE
  gCAPITAL LETTER Y WITH TILDEgSMALL LETTER Y WITH TILDEgCAPITAL LETTER MIDDLE-WELSH LL
  gSMALL LETTER MIDDLE-WELSH LLgCAPITAL LETTER MIDDLE-WELSH VgSMALL LETTER MIDDLE-WELSH V
  gCAPITAL LETTER Y WITH LOOPgSMALL LETTER Y WITH LOOPaGREEK SMALL LETTER ALPHA WITH PSILIbeDASIA
  bePSILI AND VARIAbeDASIA AND VARIAbePSILI AND OXIAbeDASIA AND OXIAbePSILI AND PERISPOMENI
  beDASIA AND PERISPOMENIgCAPITAL LETTER ALPHA WITH PSILIbgDASIAbgPSILI AND VARIAbgDASIA AND VARIA
  bgPSILI AND OXIAbgDASIA AND OXIAbgPSILI AND PERISPOMENIbgDASIA AND PERISPOMENI
  gSMALL LETTER EPSILON WITH PSILIbgDASIAbgPSILI AND VARIAbgDASIA AND VARIAbgPSILI AND OXIA
  bgDASIA AND OXIAg+3+CAPITAL LETTER EPSILON WITH PSILIbiDASIAbiPSILI AND VARIAbiDASIA AND VARIA
  biPSILI AND OXIAbiDASIA AND OXIAg+3+SMALL LETTER ETA WITH PSILIbcDASIAbcPSILI AND VARIA
  bcDASIA AND VARIAbcPSILI AND OXIAbcDASIA AND OXIAbcPSILI AND PERISPOMENIbcDASIA AND PERISPOMENI
  gCAPITAL LETTER ETA WITH PSILIbeDASIAbePSILI AND VARIAbeDASIA AND VARIAbePSILI AND OXIA
  beDASIA AND OXIAbePSILI AND PERISPOMENIbeDASIA AND PERISPOMENIgSMALL LETTER IOTA WITH PSILIbdDASIA
  bdPSILI AND VARIAbdDASIA AND VARIAbdPSILI AND OXIAbdDASIA AND OXIAbdPSILI AND PERISPOMENI
  bdDASIA AND PERISPOMENIgCAPITAL LETTER IOTA WITH PSILIbfDASIAbfPSILI AND VARIAbfDASIA AND VARIA
  bfPSILI AND OXIAbfDASIA AND OXIAbfPSILI AND PERISPOMENIbfDASIA AND PERISPOMENI
  gSMALL LETTER OMICRON WITH PSILIbgDASIAbgPSILI AND VARIAbgDASIA AND VARIAbgPSILI AND OXIA
  bgDASIA AND OXIAg+3+CAPITAL LETTER OMICRON WITH PSILIbiDASIAbiPSILI AND VARIAbiDASIA AND VARIA
  biPSILI AND OXIAbiDASIA AND OXIAg+3+SMALL LETTER UPSILON WITH PSILIbgDASIAbgPSILI AND VARIA
  bgDASIA AND VARIAbgPSILI AND OXIAbgDASIA AND OXIAbgPSILI AND PERISPOMENIbgDASIA AND PERISPOMENI
  g+2+CAPITAL LETTER UPSILON WITH DASIAbn+2+ AND VARIAbs+2+OXIAbs+2+PERISPOMENI
  gSMALL LETTER OMEGA WITH PSILIbeDASIAbePSILI AND VARIAbeDASIA AND VARIAbePSILI AND OXIA
  beDASIA AND OXIAbePSILI AND PERISPOMENIbeDASIA AND PERISPOMENIgCAPITAL LETTER OMEGA WITH PSILI
  bgDASIAbgPSILI AND VARIAbgDASIA AND VARIAbgPSILI AND OXIAbgDASIA AND OXIAbgPSILI AND PERISPOMENI
  bgDASIA AND PERISPOMENIgSMALL LETTER ALPHA WITH VARIAbeOXIAtEPSILON WITH VARIAbgOXIAuTA WITH VARIA
  bcOXIAtIOTA WITH VARIAbdOXIAtOMICRON WITH VARIAbgOXIAtUPSILON WITH VARIAbgOXIAtOMEGA WITH VARIA
  beOXIAt+3+ALPHA WITH PSILI AND YPOGEGRAMMENIbeDASIA AND YPOGEGRAMMENI
  bePSILI AND VARIA AND YPOGEGRAMMENIbeDASIA AND VARIA AND YPOGEGRAMMENI
  bePSILI AND OXIA AND YPOGEGRAMMENIbeDASIA AND OXIA AND YPOGEGRAMMENI
  bePSILI AND PERISPOMENI AND YPOGEGRAMMENIbeDASIA AND PERISPOMENI AND YPOGEGRAMMENI
  gCAPITAL LETTER ALPHA WITH PSILI AND PROSGEGRAMMENIbgDASIA AND PROSGEGRAMMENI
  bgPSILI AND VARIA AND PROSGEGRAMMENIbgDASIA AND VARIA AND PROSGEGRAMMENI
  bgPSILI AND OXIA AND PROSGEGRAMMENIbgDASIA AND OXIA AND PROSGEGRAMMENI
  bgPSILI AND PERISPOMENI AND PROSGEGRAMMENIbgDASIA AND PERISPOMENI AND PROSGEGRAMMENI
  gSMALL LETTER ETA WITH PSILI AND YPOGEGRAMMENIbcDASIA AND YPOGEGRAMMENI
  bcPSILI AND VARIA AND YPOGEGRAMMENIbcDASIA AND VARIA AND YPOGEGRAMMENI
  bcPSILI AND OXIA AND YPOGEGRAMMENIbcDASIA AND OXIA AND YPOGEGRAMMENI
  bcPSILI AND PERISPOMENI AND YPOGEGRAMMENIbcDASIA AND PERISPOMENI AND YPOGEGRAMMENI
  gCAPITAL LETTER ETA WITH PSILI AND PROSGEGRAMMENIbeDASIA AND PROSGEGRAMMENI
  bePSILI AND VARIA AND PROSGEGRAMMENIbeDASIA AND VARIA AND PROSGEGRAMMENI
  bePSILI AND OXIA AND PROSGEGRAMMENIbeDASIA AND OXIA AND PROSGEGRAMMENI
  bePSILI AND PERISPOMENI AND PROSGEGRAMMENIbeDASIA AND PERISPOMENI AND PROSGEGRAMMENI
  gSMALL LETTER OMEGA WITH PSILI AND YPOGEGRAMMENIbeDASIA AND YPOGEGRAMMENI
  bePSILI AND VARIA AND YPOGEGRAMMENIbeDASIA AND VARIA AND YPOGEGRAMMENI
  bePSILI AND OXIA AND YPOGEGRAMMENIbeDASIA AND OXIA AND YPOGEGRAMMENI
  bePSILI AND PERISPOMENI AND YPOGEGRAMMENIbeDASIA AND PERISPOMENI AND YPOGEGRAMMENI
  gCAPITAL LETTER OMEGA WITH PSILI AND PROSGEGRAMMENIbgDASIA AND PROSGEGRAMMENI
  bgPSILI AND VARIA AND PROSGEGRAMMENIbgDASIA AND VARIA AND PROSGEGRAMMENI
  bgPSILI AND OXIA AND PROSGEGRAMMENIbgDASIA AND OXIA AND PROSGEGRAMMENI
  bgPSILI AND PERISPOMENI AND PROSGEGRAMMENIbgDASIA AND PERISPOMENI AND PROSGEGRAMMENI
  gSMALL LETTER ALPHA WITH VRACHYbeMACRONbeVARIA AND YPOGEGRAMMENIbeYPOGEGRAMMENI
  beOXIA AND YPOGEGRAMMENIbe+2+PERISPOMENIbp AND YPOGEGRAMMENIgCAPITAL LETTER ALPHA WITH VRACHY
  bgMACRONbgVARIAbgOXIAbgPROSGEGRAMMENIgKORONISgPROSGEGRAMMENIhSILIhERISPOMENI
  gDIALYTIKA AND PERISPOMENIgSMALL LETTER ETA WITH VARIA AND YPOGEGRAMMENIbcYPOGEGRAMMENI
  bcOXIA AND YPOGEGRAMMENIbc+2+PERISPOMENIbn AND YPOGEGRAMMENIgCAPITAL LETTER EPSILON WITH VARIA
  biOXIAwTA WITH VARIAbeOXIAbePROSGEGRAMMENIgPSILI AND VARIAqOXIAqPERISPOMENI
  gSMALL LETTER IOTA WITH VRACHYbdMACRONbdDIALYTIKA AND VARIAbrOXIAbd+3+PERISPOMENI
  bdDIALYTIKA AND PERISPOMENIgCAPITAL LETTER IOTA WITH VRACHYbfMACRONbfVARIAbfOXIA
  g+2+DASIA AND VARIAqOXIAqPERISPOMENIgSMALL LETTER UPSILON WITH VRACHYbgMACRONbgDIALYTIKA AND VARIA
  buOXIAtRHO WITH PSILIbcDASIAtUPSILON WITH PERISPOMENIbgDIALYTIKA AND PERISPOMENI
  gCAPITAL LETTER UPSILON WITH VRACHYbiMACRONbiVARIAbiOXIAvRHO WITH DASIAgDIALYTIKA AND VARIAuOXIA
  gVARIAg+3+SMALL LETTER OMEGA WITH VARIA AND YPOGEGRAMMENIbeYPOGEGRAMMENIbeOXIA AND YPOGEGRAMMENI
  be+2+PERISPOMENIbp AND YPOGEGRAMMENIgCAPITAL LETTER OMICRON WITH VARIAbiOXIAxEGA WITH VARIAbgOXIA
  bgPROSGEGRAMMENIgOXIAgDASIA
  "

end BoundQuery.Text.CharacterName
